import TimeTable.Zone.Basic

namespace TimeTable.Zone

namespace AmericaSaoPaulo

def lmt : ZoneOffset := { seconds := -11188, abbreviation := "LMT" }

def west03 : ZoneOffset := { seconds := -10800, abbreviation := "-03" }

def west02 : ZoneOffset := { seconds := -7200, abbreviation := "-02" }

/-- The zone of eastern Brazil. -/
def zone : Zone :=
  ⟨"America/Sao_Paulo", lmt, [
    (-1767214412, west03), (-1206957600, west02), (-1191362400, west03), (-1175374800, west02),
    (-1159826400, west03), (-633819600, west02), (-622069200, west03), (-602283600, west02),
    (-591832800, west03), (-570747600, west02), (-560210400, west03), (-539125200, west02),
    (-531352800, west03), (-195426000, west02), (-184197600, west03), (-155163600, west02),
    (-150069600, west03), (-128898000, west02), (-121125600, west03), (-99954000, west02),
    (-89589600, west03), (-68418000, west02), (-57967200, west03), (499748400, west02),
    (511236000, west03), (530593200, west02), (540266400, west03), (562129200, west02),
    (571197600, west03), (592974000, west02), (602042400, west03), (624423600, west02),
    (634701600, west03), (656478000, west02), (666756000, west03), (687927600, west02),
    (697600800, west03), (719982000, west02), (728445600, west03), (750826800, west02),
    (761709600, west03), (782276400, west02), (793159200, west03), (813726000, west02),
    (824004000, west03), (844570800, west02), (856058400, west03), (876106800, west02),
    (888717600, west03), (908074800, west02), (919562400, west03), (938919600, west02),
    (951616800, west03), (970974000, west02), (982461600, west03), (1003028400, west02),
    (1013911200, west03), (1036292400, west02), (1045360800, west03), (1066532400, west02),
    (1076810400, west03), (1099364400, west02), (1108864800, west03), (1129431600, west02),
    (1140314400, west03), (1162695600, west02), (1172368800, west03), (1192330800, west02),
    (1203213600, west03), (1224385200, west02), (1234663200, west03), (1255834800, west02),
    (1266717600, west03), (1287284400, west02), (1298167200, west03), (1318734000, west02),
    (1330221600, west03), (1350788400, west02), (1361066400, west03), (1382238000, west02),
    (1392516000, west03), (1413687600, west02), (1424570400, west03), (1445137200, west02),
    (1456020000, west03), (1476586800, west02), (1487469600, west03), (1508036400, west02),
    (1518919200, west03), (1541300400, west02), (1550368800, west03)]⟩

end AmericaSaoPaulo

end TimeTable.Zone
