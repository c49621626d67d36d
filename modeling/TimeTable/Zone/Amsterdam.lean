import TimeTable.Zone.Basic

namespace TimeTable.Zone

namespace EuropeAmsterdam

def lmt : ZoneOffset := { seconds := 1050, abbreviation := "LMT" }

def bmt : ZoneOffset := { seconds := 1050, abbreviation := "BMT" }

def wet : ZoneOffset := { seconds := 0, abbreviation := "WET" }

def cet : ZoneOffset := { seconds := 3600, abbreviation := "CET" }

def cest : ZoneOffset := { seconds := 7200, abbreviation := "CEST" }

def west : ZoneOffset := { seconds := 3600, abbreviation := "WEST" }

/-- The zone of the Netherlands. -/
def zone : Zone :=
  ⟨"Europe/Amsterdam", lmt, [
    (-2840141850, bmt), (-2450995200, wet), (-1740355200, cet), (-1693702800, cest),
    (-1680483600, cet), (-1663455600, cest), (-1650150000, cet), (-1632006000, cest),
    (-1618700400, cet), (-1613829600, wet), (-1604278800, west), (-1585530000, wet),
    (-1574038800, west), (-1552266000, wet), (-1539997200, west), (-1520557200, wet),
    (-1507510800, west), (-1490576400, wet), (-1473642000, west), (-1459126800, wet),
    (-1444006800, west), (-1427677200, wet), (-1411952400, west), (-1396227600, wet),
    (-1379293200, west), (-1364778000, wet), (-1348448400, west), (-1333328400, wet),
    (-1316394000, west), (-1301263200, wet), (-1284328800, west), (-1269813600, wet),
    (-1253484000, west), (-1238364000, wet), (-1221429600, west), (-1206914400, wet),
    (-1191189600, west), (-1175464800, wet), (-1160344800, west), (-1143410400, wet),
    (-1127685600, west), (-1111960800, wet), (-1096840800, west), (-1080511200, wet),
    (-1063576800, west), (-1049061600, wet), (-1033336800, west), (-1017612000, wet),
    (-1002492000, west), (-986162400, wet), (-969228000, west), (-950479200, wet),
    (-942012000, west), (-934671600, cest), (-857257200, cet), (-844556400, cest),
    (-828226800, cet), (-812502000, cest), (-798073200, cet), (-781052400, cest),
    (-766623600, cet), (-745455600, cest), (-733273200, cet), (228877200, cest),
    (243997200, cet), (260326800, cest), (276051600, cet), (291776400, cest), (307501200, cet),
    (323830800, cest), (338950800, cet), (354675600, cest), (370400400, cet), (386125200, cest),
    (401850000, cet), (417574800, cest), (433299600, cet), (449024400, cest), (465354000, cet),
    (481078800, cest), (496803600, cet), (512528400, cest), (528253200, cet), (543978000, cest),
    (559702800, cet), (575427600, cest), (591152400, cet), (606877200, cest), (622602000, cet),
    (638326800, cest), (654656400, cet), (670381200, cest), (686106000, cet), (701830800, cest),
    (717555600, cet), (733280400, cest), (749005200, cet), (764730000, cest), (780454800, cet),
    (796179600, cest), (811904400, cet), (828234000, cest), (846378000, cet), (859683600, cest),
    (877827600, cet), (891133200, cest), (909277200, cet), (922582800, cest), (941331600, cet),
    (954032400, cest), (972781200, cet), (985482000, cest), (1004230800, cet),
    (1017536400, cest), (1035680400, cet), (1048986000, cest), (1067130000, cet),
    (1080435600, cest), (1099184400, cet), (1111885200, cest), (1130634000, cet),
    (1143334800, cest), (1162083600, cet), (1174784400, cest), (1193533200, cet),
    (1206838800, cest), (1224982800, cet), (1238288400, cest), (1256432400, cet),
    (1269738000, cest), (1288486800, cet), (1301187600, cest), (1319936400, cet),
    (1332637200, cest), (1351386000, cet), (1364691600, cest), (1382835600, cet),
    (1396141200, cest), (1414285200, cet), (1427590800, cest), (1445734800, cet),
    (1459040400, cest), (1477789200, cet), (1490490000, cest), (1509238800, cet),
    (1521939600, cest), (1540688400, cet), (1553994000, cest), (1572138000, cet),
    (1585443600, cest), (1603587600, cet), (1616893200, cest), (1635642000, cet),
    (1648342800, cest), (1667091600, cet), (1679792400, cest), (1698541200, cet),
    (1711846800, cest), (1729990800, cet), (1743296400, cest), (1761440400, cet),
    (1774746000, cest), (1792890000, cet), (1806195600, cest), (1824944400, cet),
    (1837645200, cest), (1856394000, cet), (1869094800, cest), (1887843600, cet),
    (1901149200, cest), (1919293200, cet), (1932598800, cest), (1950742800, cet),
    (1964048400, cest), (1982797200, cet), (1995498000, cest), (2014246800, cet),
    (2026947600, cest), (2045696400, cet), (2058397200, cest), (2077146000, cet),
    (2090451600, cest), (2108595600, cet), (2121901200, cest), (2140045200, cet),
    (2153350800, cest), (2172099600, cet), (2184800400, cest), (2203549200, cet),
    (2216250000, cest), (2234998800, cet), (2248304400, cest), (2266448400, cet),
    (2279754000, cest), (2297898000, cet), (2311203600, cest), (2329347600, cet),
    (2342653200, cest), (2361402000, cet), (2374102800, cest), (2392851600, cet),
    (2405552400, cest), (2424301200, cet), (2437606800, cest), (2455750800, cet),
    (2469056400, cest), (2487200400, cet), (2500506000, cest), (2519254800, cet),
    (2531955600, cest), (2550704400, cet), (2563405200, cest), (2582154000, cet),
    (2595459600, cest), (2613603600, cet), (2626909200, cest), (2645053200, cet),
    (2658358800, cest), (2676502800, cet), (2689808400, cest), (2708557200, cet),
    (2721258000, cest), (2740006800, cet), (2752707600, cest), (2771456400, cet),
    (2784762000, cest), (2802906000, cet), (2816211600, cest), (2834355600, cet),
    (2847661200, cest), (2866410000, cet), (2879110800, cest), (2897859600, cet),
    (2910560400, cest), (2929309200, cet), (2942010000, cest), (2960758800, cet),
    (2974064400, cest), (2992208400, cet), (3005514000, cest), (3023658000, cet),
    (3036963600, cest), (3055712400, cet), (3068413200, cest), (3087162000, cet),
    (3099862800, cest), (3118611600, cet), (3131917200, cest), (3150061200, cet),
    (3163366800, cest), (3181510800, cet), (3194816400, cest), (3212960400, cet),
    (3226266000, cest), (3245014800, cet), (3257715600, cest), (3276464400, cet),
    (3289165200, cest), (3307914000, cet), (3321219600, cest), (3339363600, cet),
    (3352669200, cest), (3370813200, cet), (3384118800, cest), (3402867600, cet),
    (3415568400, cest), (3434317200, cet), (3447018000, cest), (3465766800, cet),
    (3479072400, cest), (3497216400, cet), (3510522000, cest), (3528666000, cet),
    (3541971600, cest), (3560115600, cet), (3573421200, cest), (3592170000, cet),
    (3604870800, cest), (3623619600, cet), (3636320400, cest), (3655069200, cet),
    (3668374800, cest), (3686518800, cet), (3699824400, cest), (3717968400, cet),
    (3731274000, cest), (3750022800, cet), (3762723600, cest), (3781472400, cet),
    (3794173200, cest), (3812922000, cet), (3825622800, cest), (3844371600, cet),
    (3857677200, cest), (3875821200, cet), (3889126800, cest), (3907270800, cet),
    (3920576400, cest), (3939325200, cet), (3952026000, cest), (3970774800, cet),
    (3983475600, cest), (4002224400, cet), (4015530000, cest), (4033674000, cet),
    (4046979600, cest), (4065123600, cet), (4078429200, cest), (4096573200, cet)]⟩

end EuropeAmsterdam

end TimeTable.Zone
