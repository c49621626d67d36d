import TimeTable.Zone.Basic

namespace TimeTable.Zone

namespace AustraliaLordHowe

def lmt : ZoneOffset := { seconds := 38180, abbreviation := "LMT" }

def aest : ZoneOffset := { seconds := 36000, abbreviation := "AEST" }

def east1030 : ZoneOffset := { seconds := 37800, abbreviation := "+1030" }

def east1130 : ZoneOffset := { seconds := 41400, abbreviation := "+1130" }

def east11 : ZoneOffset := { seconds := 39600, abbreviation := "+11" }

/-- The zone of Lord Howe Island, whose summer time is half an hour. -/
def zone : Zone :=
  ⟨"Australia/Lord_Howe", lmt, [
    (-2364114980, aest), (352216800, east1030), (372785400, east1130), (384273000, east1030),
    (404839800, east1130), (415722600, east1030), (436289400, east1130), (447172200, east1030),
    (467739000, east1130), (478621800, east1030), (499188600, east11), (511282800, east1030),
    (530033400, east11), (542732400, east1030), (562087800, east11), (574786800, east1030),
    (594142200, east11), (606236400, east1030), (625591800, east11), (636476400, east1030),
    (657041400, east11), (667926000, east1030), (688491000, east11), (699375600, east1030),
    (719940600, east11), (731430000, east1030), (751995000, east11), (762879600, east1030),
    (783444600, east11), (794329200, east1030), (814894200, east11), (828198000, east1030),
    (846343800, east11), (859647600, east1030), (877793400, east11), (891097200, east1030),
    (909243000, east11), (922546800, east1030), (941297400, east11), (953996400, east1030),
    (967303800, east11), (985446000, east1030), (1004196600, east11), (1017500400, east1030),
    (1035646200, east11), (1048950000, east1030), (1067095800, east11), (1080399600, east1030),
    (1099150200, east11), (1111849200, east1030), (1130599800, east11), (1143903600, east1030),
    (1162049400, east11), (1174748400, east1030), (1193499000, east11), (1207407600, east1030),
    (1223134200, east11), (1238857200, east1030), (1254583800, east11), (1270306800, east1030),
    (1286033400, east11), (1301756400, east1030), (1317483000, east11), (1333206000, east1030),
    (1349537400, east11), (1365260400, east1030), (1380987000, east11), (1396710000, east1030),
    (1412436600, east11), (1428159600, east1030), (1443886200, east11), (1459609200, east1030),
    (1475335800, east11), (1491058800, east1030), (1506785400, east11), (1522508400, east1030),
    (1538839800, east11), (1554562800, east1030), (1570289400, east11), (1586012400, east1030),
    (1601739000, east11), (1617462000, east1030), (1633188600, east11), (1648911600, east1030),
    (1664638200, east11), (1680361200, east1030), (1696087800, east11), (1712415600, east1030),
    (1728142200, east11), (1743865200, east1030), (1759591800, east11), (1775314800, east1030),
    (1791041400, east11), (1806764400, east1030), (1822491000, east11), (1838214000, east1030),
    (1853940600, east11), (1869663600, east1030), (1885995000, east11), (1901718000, east1030),
    (1917444600, east11), (1933167600, east1030), (1948894200, east11), (1964617200, east1030),
    (1980343800, east11), (1996066800, east1030), (2011793400, east11), (2027516400, east1030),
    (2043243000, east11), (2058966000, east1030), (2075297400, east11), (2091020400, east1030),
    (2106747000, east11), (2122470000, east1030), (2138196600, east11), (2153919600, east1030),
    (2169646200, east11), (2185369200, east1030), (2201095800, east11), (2216818800, east1030),
    (2233150200, east11), (2248873200, east1030), (2264599800, east11), (2280322800, east1030),
    (2296049400, east11), (2311772400, east1030), (2327499000, east11), (2343222000, east1030),
    (2358948600, east11), (2374671600, east1030), (2390398200, east11), (2406121200, east1030),
    (2422452600, east11), (2438175600, east1030), (2453902200, east11), (2469625200, east1030),
    (2485351800, east11), (2501074800, east1030), (2516801400, east11), (2532524400, east1030),
    (2548251000, east11), (2563974000, east1030), (2579700600, east11), (2596028400, east1030),
    (2611755000, east11), (2627478000, east1030), (2643204600, east11), (2658927600, east1030),
    (2674654200, east11), (2690377200, east1030), (2706103800, east11), (2721826800, east1030),
    (2737553400, east11), (2753276400, east1030), (2769607800, east11), (2785330800, east1030),
    (2801057400, east11), (2816780400, east1030), (2832507000, east11), (2848230000, east1030),
    (2863956600, east11), (2879679600, east1030), (2895406200, east11), (2911129200, east1030),
    (2926855800, east11), (2942578800, east1030), (2958910200, east11), (2974633200, east1030),
    (2990359800, east11), (3006082800, east1030), (3021809400, east11), (3037532400, east1030),
    (3053259000, east11), (3068982000, east1030), (3084708600, east11), (3100431600, east1030),
    (3116763000, east11), (3132486000, east1030), (3148212600, east11), (3163935600, east1030),
    (3179662200, east11), (3195385200, east1030), (3211111800, east11), (3226834800, east1030),
    (3242561400, east11), (3258284400, east1030), (3274011000, east11), (3289734000, east1030),
    (3306065400, east11), (3321788400, east1030), (3337515000, east11), (3353238000, east1030),
    (3368964600, east11), (3384687600, east1030), (3400414200, east11), (3416137200, east1030),
    (3431863800, east11), (3447586800, east1030), (3463313400, east11), (3479641200, east1030),
    (3495367800, east11), (3511090800, east1030), (3526817400, east11), (3542540400, east1030),
    (3558267000, east11), (3573990000, east1030), (3589716600, east11), (3605439600, east1030),
    (3621166200, east11), (3636889200, east1030), (3653220600, east11), (3668943600, east1030),
    (3684670200, east11), (3700393200, east1030), (3716119800, east11), (3731842800, east1030),
    (3747569400, east11), (3763292400, east1030), (3779019000, east11), (3794742000, east1030),
    (3810468600, east11), (3826191600, east1030), (3842523000, east11), (3858246000, east1030),
    (3873972600, east11), (3889695600, east1030), (3905422200, east11), (3921145200, east1030),
    (3936871800, east11), (3952594800, east1030), (3968321400, east11), (3984044400, east1030),
    (4000375800, east11), (4016098800, east1030), (4031825400, east11), (4047548400, east1030),
    (4063275000, east11), (4078998000, east1030), (4094724600, east11)]⟩

end AustraliaLordHowe

end TimeTable.Zone
