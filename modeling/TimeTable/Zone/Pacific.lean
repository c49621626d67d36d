import TimeTable.Zone.Basic

namespace TimeTable.Zone

namespace PacificApia

def lmt : ZoneOffset := { seconds := 45184, abbreviation := "LMT" }

def lmtOld : ZoneOffset := { seconds := -41216, abbreviation := "LMT" }

def west1130 : ZoneOffset := { seconds := -41400, abbreviation := "-1130" }

def west11 : ZoneOffset := { seconds := -39600, abbreviation := "-11" }

def west10 : ZoneOffset := { seconds := -36000, abbreviation := "-10" }

def east14 : ZoneOffset := { seconds := 50400, abbreviation := "+14" }

def east13 : ZoneOffset := { seconds := 46800, abbreviation := "+13" }

/-- The zone of Samoa. -/
def zone : Zone :=
  ⟨"Pacific/Apia", lmt, [
    (-2445424384, lmtOld), (-1861878784, west1130), (-631110600, west11), (1285498800, west10),
    (1301752800, west11), (1316872800, west10), (1325239200, east14), (1333202400, east13),
    (1348927200, east14), (1365256800, east13), (1380376800, east14), (1396706400, east13),
    (1411826400, east14), (1428156000, east13), (1443276000, east14), (1459605600, east13),
    (1474725600, east14), (1491055200, east13), (1506175200, east14), (1522504800, east13),
    (1538229600, east14), (1554559200, east13), (1569679200, east14), (1586008800, east13),
    (1601128800, east14), (1617458400, east13)]⟩

end PacificApia

namespace PacificKiritimati

def lmt : ZoneOffset := { seconds := -37760, abbreviation := "LMT" }

def west1040 : ZoneOffset := { seconds := -38400, abbreviation := "-1040" }

def west10 : ZoneOffset := { seconds := -36000, abbreviation := "-10" }

def east14 : ZoneOffset := { seconds := 50400, abbreviation := "+14" }

/-- The zone of the Line Islands. -/
def zone : Zone :=
  ⟨"Pacific/Kiritimati", lmt, [
    (-2177415040, west1040), (307622400, west10), (788868000, east14)]⟩

end PacificKiritimati

end TimeTable.Zone
