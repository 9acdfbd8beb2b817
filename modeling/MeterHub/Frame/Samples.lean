import MeterHub.Frame

/-!
Sample frames: what a meter of each mode sends, and a frame that does not reveal its meter.
-/

set_option autoImplicit false
set_option relaxedAutoImplicit false

namespace MeterHub.Frame

def historicSample (serialNumber : String) : Frame :=
  ofPairs .historic
    [("ADCO", serialNumber), ("OPTARIF", "BASE"), ("ISOUSC", "30"), ("BASE", "012345678"),
      ("PTEC", "TH.."), ("IINST", "003"), ("IMAX", "090"), ("PAPP", "00750"),
      ("MOTDETAT", "000000")]

def standardSample (serialNumber : String) : Frame :=
  ofPairs .standard
    [("ADSC", serialNumber), ("VTIC", "02"), ("NGTF", "      BASE      "),
      ("LTARF", "      BASE      "), ("EAST", "012345678"), ("IRMS1", "003"), ("URMS1", "231"),
      ("PREF", "06"), ("SINSTS", "00750")]

def anonymousSample (mode : Mode) : Frame :=
  ofPairs mode [("PAPP", "00420")]

end MeterHub.Frame
