import TimeTable.Zone.Basic

namespace TimeTable.Zone

namespace AfricaMonrovia

def lmt : ZoneOffset := { seconds := -2588, abbreviation := "LMT" }

def mmt : ZoneOffset := { seconds := -2588, abbreviation := "MMT" }

def mmtOld : ZoneOffset := { seconds := -2670, abbreviation := "MMT" }

def gmt : ZoneOffset := { seconds := 0, abbreviation := "GMT" }

/-- The zone of Liberia. -/
def zone : Zone :=
  ⟨"Africa/Monrovia", lmt, [
    (-2776979812, mmt), (-1604359012, mmtOld), (63593070, gmt)]⟩

end AfricaMonrovia

end TimeTable.Zone
