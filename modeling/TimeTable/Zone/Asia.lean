import TimeTable.Zone.Basic

namespace TimeTable.Zone

namespace AsiaTokyo

def lmt : ZoneOffset := { seconds := 33539, abbreviation := "LMT" }

def jst : ZoneOffset := { seconds := 32400, abbreviation := "JST" }

def jdt : ZoneOffset := { seconds := 36000, abbreviation := "JDT" }

/-- The zone of Japan. -/
def zone : Zone :=
  ⟨"Asia/Tokyo", lmt, [
    (-2587745939, jst), (-683802000, jdt), (-672310800, jst), (-654771600, jdt), (-640861200, jst),
    (-620298000, jdt), (-609411600, jst), (-588848400, jdt), (-577962000, jst)]⟩

end AsiaTokyo

namespace AsiaKolkata

def lmt : ZoneOffset := { seconds := 21208, abbreviation := "LMT" }

def hmt : ZoneOffset := { seconds := 21200, abbreviation := "HMT" }

def mmt : ZoneOffset := { seconds := 19270, abbreviation := "MMT" }

def ist : ZoneOffset := { seconds := 19800, abbreviation := "IST" }

def east0630 : ZoneOffset := { seconds := 23400, abbreviation := "+0630" }

/-- The zone of India. -/
def zone : Zone :=
  ⟨"Asia/Kolkata", lmt, [
    (-3645237208, hmt), (-3155694800, mmt), (-2019705670, ist), (-891581400, east0630),
    (-872058600, ist), (-862637400, east0630), (-764145000, ist)]⟩

end AsiaKolkata

namespace AsiaKathmandu

def lmt : ZoneOffset := { seconds := 20476, abbreviation := "LMT" }

def east0530 : ZoneOffset := { seconds := 19800, abbreviation := "+0530" }

def east0545 : ZoneOffset := { seconds := 20700, abbreviation := "+0545" }

/-- The zone of Nepal. -/
def zone : Zone :=
  ⟨"Asia/Kathmandu", lmt, [
    (-1577943676, east0530), (504901800, east0545)]⟩

end AsiaKathmandu

end TimeTable.Zone
