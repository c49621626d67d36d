import TimeTable.Zone.Basic

namespace TimeTable.Zone

namespace AmericaNewYork

def lmt : ZoneOffset := { seconds := -17762, abbreviation := "LMT" }

def est : ZoneOffset := { seconds := -18000, abbreviation := "EST" }

def edt : ZoneOffset := { seconds := -14400, abbreviation := "EDT" }

def ewt : ZoneOffset := { seconds := -14400, abbreviation := "EWT" }

def ept : ZoneOffset := { seconds := -14400, abbreviation := "EPT" }

/-- The zone of the eastern United States. -/
def zone : Zone :=
  ⟨"America/New_York", lmt, [
    (-2717633038, est), (-1633280400, edt), (-1615140000, est), (-1601830800, edt),
    (-1583690400, est), (-1570381200, edt), (-1551636000, est), (-1536512400, edt),
    (-1523210400, est), (-1504458000, edt), (-1491760800, est), (-1473008400, edt),
    (-1459706400, est), (-1441558800, edt), (-1428256800, est), (-1410109200, edt),
    (-1396807200, est), (-1378659600, edt), (-1365357600, est), (-1347210000, edt),
    (-1333908000, est), (-1315155600, edt), (-1301853600, est), (-1283706000, edt),
    (-1270404000, est), (-1252256400, edt), (-1238954400, est), (-1220806800, edt),
    (-1207504800, est), (-1189357200, edt), (-1176055200, est), (-1157302800, edt),
    (-1144605600, est), (-1125853200, edt), (-1112551200, est), (-1094403600, edt),
    (-1081101600, est), (-1062954000, edt), (-1049652000, est), (-1031504400, edt),
    (-1018202400, est), (-1000054800, edt), (-986752800, est), (-968000400, edt),
    (-955303200, est), (-936550800, edt), (-923248800, est), (-905101200, edt),
    (-891799200, est), (-880218000, ewt), (-769395600, ept), (-765396000, est),
    (-747248400, edt), (-733946400, est), (-715798800, edt), (-702496800, est),
    (-684349200, edt), (-671047200, est), (-652899600, edt), (-639597600, est),
    (-620845200, edt), (-608148000, est), (-589395600, edt), (-576093600, est),
    (-557946000, edt), (-544644000, est), (-526496400, edt), (-513194400, est),
    (-495046800, edt), (-481744800, est), (-463597200, edt), (-447271200, est),
    (-431542800, edt), (-415821600, est), (-400093200, edt), (-384372000, est),
    (-368643600, edt), (-352922400, est), (-337194000, edt), (-321472800, est),
    (-305744400, edt), (-289418400, est), (-273690000, edt), (-257968800, est),
    (-242240400, edt), (-226519200, est), (-210790800, edt), (-195069600, est),
    (-179341200, edt), (-163620000, est), (-147891600, edt), (-131565600, est),
    (-116442000, edt), (-100116000, est), (-84387600, edt), (-68666400, est), (-52938000, edt),
    (-37216800, est), (-21488400, edt), (-5767200, est), (9961200, edt), (25682400, est),
    (41410800, edt), (57736800, est), (73465200, edt), (89186400, est), (104914800, edt),
    (120636000, est), (126687600, edt), (152085600, est), (162370800, edt), (183535200, est),
    (199263600, edt), (215589600, est), (230713200, edt), (247039200, est), (262767600, edt),
    (278488800, est), (294217200, edt), (309938400, est), (325666800, edt), (341388000, est),
    (357116400, edt), (372837600, est), (388566000, edt), (404892000, est), (420015600, edt),
    (436341600, est), (452070000, edt), (467791200, est), (483519600, edt), (499240800, est),
    (514969200, edt), (530690400, est), (544604400, edt), (562140000, est), (576054000, edt),
    (594194400, est), (607503600, edt), (625644000, est), (638953200, edt), (657093600, est),
    (671007600, edt), (688543200, est), (702457200, edt), (719992800, est), (733906800, edt),
    (752047200, est), (765356400, edt), (783496800, est), (796806000, edt), (814946400, est),
    (828860400, edt), (846396000, est), (860310000, edt), (877845600, est), (891759600, edt),
    (909295200, est), (923209200, edt), (941349600, est), (954658800, edt), (972799200, est),
    (986108400, edt), (1004248800, est), (1018162800, edt), (1035698400, est), (1049612400, edt),
    (1067148000, est), (1081062000, edt), (1099202400, est), (1112511600, edt),
    (1130652000, est), (1143961200, edt), (1162101600, est), (1173596400, edt),
    (1194156000, est), (1205046000, edt), (1225605600, est), (1236495600, edt),
    (1257055200, est), (1268550000, edt), (1289109600, est), (1299999600, edt),
    (1320559200, est), (1331449200, edt), (1352008800, est), (1362898800, edt),
    (1383458400, est), (1394348400, edt), (1414908000, est), (1425798000, edt),
    (1446357600, est), (1457852400, edt), (1478412000, est), (1489302000, edt),
    (1509861600, est), (1520751600, edt), (1541311200, est), (1552201200, edt),
    (1572760800, est), (1583650800, edt), (1604210400, est), (1615705200, edt),
    (1636264800, est), (1647154800, edt), (1667714400, est), (1678604400, edt),
    (1699164000, est), (1710054000, edt), (1730613600, est), (1741503600, edt),
    (1762063200, est), (1772953200, edt), (1793512800, est), (1805007600, edt),
    (1825567200, est), (1836457200, edt), (1857016800, est), (1867906800, edt),
    (1888466400, est), (1899356400, edt), (1919916000, est), (1930806000, edt),
    (1951365600, est), (1962860400, edt), (1983420000, est), (1994310000, edt),
    (2014869600, est), (2025759600, edt), (2046319200, est), (2057209200, edt),
    (2077768800, est), (2088658800, edt), (2109218400, est), (2120108400, edt),
    (2140668000, est), (2152162800, edt), (2172722400, est), (2183612400, edt),
    (2204172000, est), (2215062000, edt), (2235621600, est), (2246511600, edt),
    (2267071200, est), (2277961200, edt), (2298520800, est), (2309410800, edt),
    (2329970400, est), (2341465200, edt), (2362024800, est), (2372914800, edt),
    (2393474400, est), (2404364400, edt), (2424924000, est), (2435814000, edt),
    (2456373600, est), (2467263600, edt), (2487823200, est), (2499318000, edt),
    (2519877600, est), (2530767600, edt), (2551327200, est), (2562217200, edt),
    (2582776800, est), (2593666800, edt), (2614226400, est), (2625116400, edt),
    (2645676000, est), (2656566000, edt), (2677125600, est), (2688620400, edt),
    (2709180000, est), (2720070000, edt), (2740629600, est), (2751519600, edt),
    (2772079200, est), (2782969200, edt), (2803528800, est), (2814418800, edt),
    (2834978400, est), (2846473200, edt), (2867032800, est), (2877922800, edt),
    (2898482400, est), (2909372400, edt), (2929932000, est), (2940822000, edt),
    (2961381600, est), (2972271600, edt), (2992831200, est), (3003721200, edt),
    (3024280800, est), (3035775600, edt), (3056335200, est), (3067225200, edt),
    (3087784800, est), (3098674800, edt), (3119234400, est), (3130124400, edt),
    (3150684000, est), (3161574000, edt), (3182133600, est), (3193023600, edt),
    (3213583200, est), (3225078000, edt), (3245637600, est), (3256527600, edt),
    (3277087200, est), (3287977200, edt), (3308536800, est), (3319426800, edt),
    (3339986400, est), (3350876400, edt), (3371436000, est), (3382930800, edt),
    (3403490400, est), (3414380400, edt), (3434940000, est), (3445830000, edt),
    (3466389600, est), (3477279600, edt), (3497839200, est), (3508729200, edt),
    (3529288800, est), (3540178800, edt), (3560738400, est), (3572233200, edt),
    (3592792800, est), (3603682800, edt), (3624242400, est), (3635132400, edt),
    (3655692000, est), (3666582000, edt), (3687141600, est), (3698031600, edt),
    (3718591200, est), (3730086000, edt), (3750645600, est), (3761535600, edt),
    (3782095200, est), (3792985200, edt), (3813544800, est), (3824434800, edt),
    (3844994400, est), (3855884400, edt), (3876444000, est), (3887334000, edt),
    (3907893600, est), (3919388400, edt), (3939948000, est), (3950838000, edt),
    (3971397600, est), (3982287600, edt), (4002847200, est), (4013737200, edt),
    (4034296800, est), (4045186800, edt), (4065746400, est), (4076636400, edt),
    (4097196000, est)]⟩

end AmericaNewYork

end TimeTable.Zone
