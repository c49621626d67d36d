import TimeTable.Zone.Basic

namespace TimeTable.Zone

namespace EuropeLondon

def lmt : ZoneOffset := { seconds := -75, abbreviation := "LMT" }

def gmt : ZoneOffset := { seconds := 0, abbreviation := "GMT" }

def bst : ZoneOffset := { seconds := 3600, abbreviation := "BST" }

def bdst : ZoneOffset := { seconds := 7200, abbreviation := "BDST" }

/-- The zone of the United Kingdom. -/
def zone : Zone :=
  ⟨"Europe/London", lmt, [
    (-3852662325, gmt), (-1691964000, bst), (-1680472800, gmt), (-1664143200, bst),
    (-1650146400, gmt), (-1633903200, bst), (-1617487200, gmt), (-1601848800, bst),
    (-1586037600, gmt), (-1570399200, bst), (-1552168800, gmt), (-1538344800, bst),
    (-1522533600, gmt), (-1507500000, bst), (-1490565600, gmt), (-1473631200, bst),
    (-1460930400, gmt), (-1442786400, bst), (-1428876000, gmt), (-1410732000, bst),
    (-1396216800, gmt), (-1379282400, bst), (-1364767200, gmt), (-1348437600, bst),
    (-1333317600, gmt), (-1315778400, bst), (-1301263200, gmt), (-1284328800, bst),
    (-1269813600, gmt), (-1253484000, bst), (-1238364000, gmt), (-1221429600, bst),
    (-1206914400, gmt), (-1189980000, bst), (-1175464800, gmt), (-1159135200, bst),
    (-1143410400, gmt), (-1126476000, bst), (-1111960800, gmt), (-1095631200, bst),
    (-1080511200, gmt), (-1063576800, bst), (-1049061600, gmt), (-1032127200, bst),
    (-1017612000, gmt), (-1001282400, bst), (-986162400, gmt), (-969228000, bst),
    (-950479200, gmt), (-942012000, bst), (-904518000, bdst), (-896050800, bst),
    (-875487600, bdst), (-864601200, bst), (-844038000, bdst), (-832546800, bst),
    (-812588400, bdst), (-798073200, bst), (-781052400, bdst), (-772066800, bst),
    (-764805600, gmt), (-748476000, bst), (-733356000, gmt), (-719445600, bst),
    (-717030000, bdst), (-706748400, bst), (-699487200, gmt), (-687996000, bst),
    (-668037600, gmt), (-654732000, bst), (-636588000, gmt), (-622072800, bst),
    (-605743200, gmt), (-590623200, bst), (-574293600, gmt), (-558568800, bst),
    (-542239200, gmt), (-527119200, bst), (-512604000, gmt), (-496274400, bst),
    (-481154400, gmt), (-464220000, bst), (-449704800, gmt), (-432165600, bst),
    (-417650400, gmt), (-401320800, bst), (-386200800, gmt), (-369266400, bst),
    (-354751200, gmt), (-337816800, bst), (-323301600, gmt), (-306972000, bst),
    (-291852000, gmt), (-276732000, bst), (-257983200, gmt), (-245282400, bst),
    (-226533600, gmt), (-213228000, bst), (-195084000, gmt), (-182383200, bst),
    (-163634400, gmt), (-150933600, bst), (-132184800, gmt), (-119484000, bst),
    (-100735200, gmt), (-88034400, bst), (-68680800, gmt), (-59004000, bst), (57718800, gmt),
    (69818400, bst), (89172000, gmt), (101268000, bst), (120621600, gmt), (132717600, bst),
    (152071200, gmt), (164167200, bst), (183520800, gmt), (196221600, bst), (214970400, gmt),
    (227671200, bst), (246420000, gmt), (259120800, bst), (278474400, gmt), (290570400, bst),
    (309924000, gmt), (322020000, bst), (341373600, gmt), (354675600, bst), (372819600, gmt),
    (386125200, bst), (404269200, gmt), (417574800, bst), (435718800, gmt), (449024400, bst),
    (467773200, gmt), (481078800, bst), (499222800, gmt), (512528400, bst), (530672400, gmt),
    (543978000, bst), (562122000, gmt), (575427600, bst), (593571600, gmt), (606877200, bst),
    (625626000, gmt), (638326800, bst), (657075600, gmt), (670381200, bst), (688525200, gmt),
    (701830800, bst), (719974800, gmt), (733280400, bst), (751424400, gmt), (764730000, bst),
    (782874000, gmt), (796179600, bst), (814323600, gmt), (828234000, bst), (846378000, gmt),
    (859683600, bst), (877827600, gmt), (891133200, bst), (909277200, gmt), (922582800, bst),
    (941331600, gmt), (954032400, bst), (972781200, gmt), (985482000, bst), (1004230800, gmt),
    (1017536400, bst), (1035680400, gmt), (1048986000, bst), (1067130000, gmt),
    (1080435600, bst), (1099184400, gmt), (1111885200, bst), (1130634000, gmt),
    (1143334800, bst), (1162083600, gmt), (1174784400, bst), (1193533200, gmt),
    (1206838800, bst), (1224982800, gmt), (1238288400, bst), (1256432400, gmt),
    (1269738000, bst), (1288486800, gmt), (1301187600, bst), (1319936400, gmt),
    (1332637200, bst), (1351386000, gmt), (1364691600, bst), (1382835600, gmt),
    (1396141200, bst), (1414285200, gmt), (1427590800, bst), (1445734800, gmt),
    (1459040400, bst), (1477789200, gmt), (1490490000, bst), (1509238800, gmt),
    (1521939600, bst), (1540688400, gmt), (1553994000, bst), (1572138000, gmt),
    (1585443600, bst), (1603587600, gmt), (1616893200, bst), (1635642000, gmt),
    (1648342800, bst), (1667091600, gmt), (1679792400, bst), (1698541200, gmt),
    (1711846800, bst), (1729990800, gmt), (1743296400, bst), (1761440400, gmt),
    (1774746000, bst), (1792890000, gmt), (1806195600, bst), (1824944400, gmt),
    (1837645200, bst), (1856394000, gmt), (1869094800, bst), (1887843600, gmt),
    (1901149200, bst), (1919293200, gmt), (1932598800, bst), (1950742800, gmt),
    (1964048400, bst), (1982797200, gmt), (1995498000, bst), (2014246800, gmt),
    (2026947600, bst), (2045696400, gmt), (2058397200, bst), (2077146000, gmt),
    (2090451600, bst), (2108595600, gmt), (2121901200, bst), (2140045200, gmt),
    (2153350800, bst), (2172099600, gmt), (2184800400, bst), (2203549200, gmt),
    (2216250000, bst), (2234998800, gmt), (2248304400, bst), (2266448400, gmt),
    (2279754000, bst), (2297898000, gmt), (2311203600, bst), (2329347600, gmt),
    (2342653200, bst), (2361402000, gmt), (2374102800, bst), (2392851600, gmt),
    (2405552400, bst), (2424301200, gmt), (2437606800, bst), (2455750800, gmt),
    (2469056400, bst), (2487200400, gmt), (2500506000, bst), (2519254800, gmt),
    (2531955600, bst), (2550704400, gmt), (2563405200, bst), (2582154000, gmt),
    (2595459600, bst), (2613603600, gmt), (2626909200, bst), (2645053200, gmt),
    (2658358800, bst), (2676502800, gmt), (2689808400, bst), (2708557200, gmt),
    (2721258000, bst), (2740006800, gmt), (2752707600, bst), (2771456400, gmt),
    (2784762000, bst), (2802906000, gmt), (2816211600, bst), (2834355600, gmt),
    (2847661200, bst), (2866410000, gmt), (2879110800, bst), (2897859600, gmt),
    (2910560400, bst), (2929309200, gmt), (2942010000, bst), (2960758800, gmt),
    (2974064400, bst), (2992208400, gmt), (3005514000, bst), (3023658000, gmt),
    (3036963600, bst), (3055712400, gmt), (3068413200, bst), (3087162000, gmt),
    (3099862800, bst), (3118611600, gmt), (3131917200, bst), (3150061200, gmt),
    (3163366800, bst), (3181510800, gmt), (3194816400, bst), (3212960400, gmt),
    (3226266000, bst), (3245014800, gmt), (3257715600, bst), (3276464400, gmt),
    (3289165200, bst), (3307914000, gmt), (3321219600, bst), (3339363600, gmt),
    (3352669200, bst), (3370813200, gmt), (3384118800, bst), (3402867600, gmt),
    (3415568400, bst), (3434317200, gmt), (3447018000, bst), (3465766800, gmt),
    (3479072400, bst), (3497216400, gmt), (3510522000, bst), (3528666000, gmt),
    (3541971600, bst), (3560115600, gmt), (3573421200, bst), (3592170000, gmt),
    (3604870800, bst), (3623619600, gmt), (3636320400, bst), (3655069200, gmt),
    (3668374800, bst), (3686518800, gmt), (3699824400, bst), (3717968400, gmt),
    (3731274000, bst), (3750022800, gmt), (3762723600, bst), (3781472400, gmt),
    (3794173200, bst), (3812922000, gmt), (3825622800, bst), (3844371600, gmt),
    (3857677200, bst), (3875821200, gmt), (3889126800, bst), (3907270800, gmt),
    (3920576400, bst), (3939325200, gmt), (3952026000, bst), (3970774800, gmt),
    (3983475600, bst), (4002224400, gmt), (4015530000, bst), (4033674000, gmt),
    (4046979600, bst), (4065123600, gmt), (4078429200, bst), (4096573200, gmt)]⟩

end EuropeLondon

end TimeTable.Zone
