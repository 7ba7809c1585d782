import NaturalQuery.Time.Zone

/-!
Time-zone data of the IANA database for the zones the interpreter knows by name: for each, the
offset before its first transition, every transition as its instant with the offsets before and
after it, and the rule that holds after the last one. Cuba stays on daylight time (UTC-4) from
8 March 2026 on.
-/

namespace NaturalQuery.Time

def Zone.newYork : Zone where
  name := "America/New_York"
  before := -17762
  transitions := #[
    ⟨-2717650800, -17762, -18000⟩, ⟨-1633280400, -18000, -14400⟩, ⟨-1615140000, -14400, -18000⟩, ⟨-1601830800, -18000, -14400⟩,
    ⟨-1583690400, -14400, -18000⟩, ⟨-1570381200, -18000, -14400⟩, ⟨-1551636000, -14400, -18000⟩, ⟨-1536512400, -18000, -14400⟩,
    ⟨-1523210400, -14400, -18000⟩, ⟨-1504458000, -18000, -14400⟩, ⟨-1491760800, -14400, -18000⟩, ⟨-1473008400, -18000, -14400⟩,
    ⟨-1459706400, -14400, -18000⟩, ⟨-1441558800, -18000, -14400⟩, ⟨-1428256800, -14400, -18000⟩, ⟨-1410109200, -18000, -14400⟩,
    ⟨-1396807200, -14400, -18000⟩, ⟨-1378659600, -18000, -14400⟩, ⟨-1365357600, -14400, -18000⟩, ⟨-1347210000, -18000, -14400⟩,
    ⟨-1333908000, -14400, -18000⟩, ⟨-1315155600, -18000, -14400⟩, ⟨-1301853600, -14400, -18000⟩, ⟨-1283706000, -18000, -14400⟩,
    ⟨-1270404000, -14400, -18000⟩, ⟨-1252256400, -18000, -14400⟩, ⟨-1238954400, -14400, -18000⟩, ⟨-1220806800, -18000, -14400⟩,
    ⟨-1207504800, -14400, -18000⟩, ⟨-1189357200, -18000, -14400⟩, ⟨-1176055200, -14400, -18000⟩, ⟨-1157302800, -18000, -14400⟩,
    ⟨-1144605600, -14400, -18000⟩, ⟨-1125853200, -18000, -14400⟩, ⟨-1112551200, -14400, -18000⟩, ⟨-1094403600, -18000, -14400⟩,
    ⟨-1081101600, -14400, -18000⟩, ⟨-1062954000, -18000, -14400⟩, ⟨-1049652000, -14400, -18000⟩, ⟨-1031504400, -18000, -14400⟩,
    ⟨-1018202400, -14400, -18000⟩, ⟨-1000054800, -18000, -14400⟩, ⟨-986752800, -14400, -18000⟩, ⟨-968000400, -18000, -14400⟩,
    ⟨-955303200, -14400, -18000⟩, ⟨-936550800, -18000, -14400⟩, ⟨-923248800, -14400, -18000⟩, ⟨-905101200, -18000, -14400⟩,
    ⟨-891799200, -14400, -18000⟩, ⟨-880218000, -18000, -14400⟩, ⟨-769395600, -14400, -14400⟩, ⟨-765396000, -14400, -18000⟩,
    ⟨-747248400, -18000, -14400⟩, ⟨-733946400, -14400, -18000⟩, ⟨-715798800, -18000, -14400⟩, ⟨-702496800, -14400, -18000⟩,
    ⟨-684349200, -18000, -14400⟩, ⟨-671047200, -14400, -18000⟩, ⟨-652899600, -18000, -14400⟩, ⟨-639597600, -14400, -18000⟩,
    ⟨-620845200, -18000, -14400⟩, ⟨-608148000, -14400, -18000⟩, ⟨-589395600, -18000, -14400⟩, ⟨-576093600, -14400, -18000⟩,
    ⟨-557946000, -18000, -14400⟩, ⟨-544644000, -14400, -18000⟩, ⟨-526496400, -18000, -14400⟩, ⟨-513194400, -14400, -18000⟩,
    ⟨-495046800, -18000, -14400⟩, ⟨-481744800, -14400, -18000⟩, ⟨-463597200, -18000, -14400⟩, ⟨-447271200, -14400, -18000⟩,
    ⟨-431542800, -18000, -14400⟩, ⟨-415821600, -14400, -18000⟩, ⟨-400093200, -18000, -14400⟩, ⟨-384372000, -14400, -18000⟩,
    ⟨-368643600, -18000, -14400⟩, ⟨-352922400, -14400, -18000⟩, ⟨-337194000, -18000, -14400⟩, ⟨-321472800, -14400, -18000⟩,
    ⟨-305744400, -18000, -14400⟩, ⟨-289418400, -14400, -18000⟩, ⟨-273690000, -18000, -14400⟩, ⟨-257968800, -14400, -18000⟩,
    ⟨-242240400, -18000, -14400⟩, ⟨-226519200, -14400, -18000⟩, ⟨-210790800, -18000, -14400⟩, ⟨-195069600, -14400, -18000⟩,
    ⟨-179341200, -18000, -14400⟩, ⟨-163620000, -14400, -18000⟩, ⟨-147891600, -18000, -14400⟩, ⟨-131565600, -14400, -18000⟩,
    ⟨-116442000, -18000, -14400⟩, ⟨-100116000, -14400, -18000⟩, ⟨-84387600, -18000, -14400⟩, ⟨-68666400, -14400, -18000⟩,
    ⟨-52938000, -18000, -14400⟩, ⟨-37216800, -14400, -18000⟩, ⟨-21488400, -18000, -14400⟩, ⟨-5767200, -14400, -18000⟩,
    ⟨9961200, -18000, -14400⟩, ⟨25682400, -14400, -18000⟩, ⟨41410800, -18000, -14400⟩, ⟨57736800, -14400, -18000⟩,
    ⟨73465200, -18000, -14400⟩, ⟨89186400, -14400, -18000⟩, ⟨104914800, -18000, -14400⟩, ⟨120636000, -14400, -18000⟩,
    ⟨126687600, -18000, -14400⟩, ⟨152085600, -14400, -18000⟩, ⟨162370800, -18000, -14400⟩, ⟨183535200, -14400, -18000⟩,
    ⟨199263600, -18000, -14400⟩, ⟨215589600, -14400, -18000⟩, ⟨230713200, -18000, -14400⟩, ⟨247039200, -14400, -18000⟩,
    ⟨262767600, -18000, -14400⟩, ⟨278488800, -14400, -18000⟩, ⟨294217200, -18000, -14400⟩, ⟨309938400, -14400, -18000⟩,
    ⟨325666800, -18000, -14400⟩, ⟨341388000, -14400, -18000⟩, ⟨357116400, -18000, -14400⟩, ⟨372837600, -14400, -18000⟩,
    ⟨388566000, -18000, -14400⟩, ⟨404892000, -14400, -18000⟩, ⟨420015600, -18000, -14400⟩, ⟨436341600, -14400, -18000⟩,
    ⟨452070000, -18000, -14400⟩, ⟨467791200, -14400, -18000⟩, ⟨483519600, -18000, -14400⟩, ⟨499240800, -14400, -18000⟩,
    ⟨514969200, -18000, -14400⟩, ⟨530690400, -14400, -18000⟩, ⟨544604400, -18000, -14400⟩, ⟨562140000, -14400, -18000⟩,
    ⟨576054000, -18000, -14400⟩, ⟨594194400, -14400, -18000⟩, ⟨607503600, -18000, -14400⟩, ⟨625644000, -14400, -18000⟩,
    ⟨638953200, -18000, -14400⟩, ⟨657093600, -14400, -18000⟩, ⟨671007600, -18000, -14400⟩, ⟨688543200, -14400, -18000⟩,
    ⟨702457200, -18000, -14400⟩, ⟨719992800, -14400, -18000⟩, ⟨733906800, -18000, -14400⟩, ⟨752047200, -14400, -18000⟩,
    ⟨765356400, -18000, -14400⟩, ⟨783496800, -14400, -18000⟩, ⟨796806000, -18000, -14400⟩, ⟨814946400, -14400, -18000⟩,
    ⟨828860400, -18000, -14400⟩, ⟨846396000, -14400, -18000⟩, ⟨860310000, -18000, -14400⟩, ⟨877845600, -14400, -18000⟩,
    ⟨891759600, -18000, -14400⟩, ⟨909295200, -14400, -18000⟩, ⟨923209200, -18000, -14400⟩, ⟨941349600, -14400, -18000⟩,
    ⟨954658800, -18000, -14400⟩, ⟨972799200, -14400, -18000⟩, ⟨986108400, -18000, -14400⟩, ⟨1004248800, -14400, -18000⟩,
    ⟨1018162800, -18000, -14400⟩, ⟨1035698400, -14400, -18000⟩, ⟨1049612400, -18000, -14400⟩, ⟨1067148000, -14400, -18000⟩,
    ⟨1081062000, -18000, -14400⟩, ⟨1099202400, -14400, -18000⟩, ⟨1112511600, -18000, -14400⟩, ⟨1130652000, -14400, -18000⟩,
    ⟨1143961200, -18000, -14400⟩, ⟨1162101600, -14400, -18000⟩, ⟨1173596400, -18000, -14400⟩, ⟨1194156000, -14400, -18000⟩,
    ⟨1205046000, -18000, -14400⟩, ⟨1225605600, -14400, -18000⟩, ⟨1236495600, -18000, -14400⟩, ⟨1257055200, -14400, -18000⟩,
    ⟨1268550000, -18000, -14400⟩, ⟨1289109600, -14400, -18000⟩, ⟨1299999600, -18000, -14400⟩, ⟨1320559200, -14400, -18000⟩,
    ⟨1331449200, -18000, -14400⟩, ⟨1352008800, -14400, -18000⟩, ⟨1362898800, -18000, -14400⟩, ⟨1383458400, -14400, -18000⟩,
    ⟨1394348400, -18000, -14400⟩, ⟨1414908000, -14400, -18000⟩, ⟨1425798000, -18000, -14400⟩, ⟨1446357600, -14400, -18000⟩,
    ⟨1457852400, -18000, -14400⟩, ⟨1478412000, -14400, -18000⟩, ⟨1489302000, -18000, -14400⟩, ⟨1509861600, -14400, -18000⟩,
    ⟨1520751600, -18000, -14400⟩, ⟨1541311200, -14400, -18000⟩, ⟨1552201200, -18000, -14400⟩, ⟨1572760800, -14400, -18000⟩,
    ⟨1583650800, -18000, -14400⟩, ⟨1604210400, -14400, -18000⟩, ⟨1615705200, -18000, -14400⟩, ⟨1636264800, -14400, -18000⟩,
    ⟨1647154800, -18000, -14400⟩, ⟨1667714400, -14400, -18000⟩, ⟨1678604400, -18000, -14400⟩, ⟨1699164000, -14400, -18000⟩,
    ⟨1710054000, -18000, -14400⟩, ⟨1730613600, -14400, -18000⟩, ⟨1741503600, -18000, -14400⟩, ⟨1762063200, -14400, -18000⟩,
    ⟨1772953200, -18000, -14400⟩, ⟨1793512800, -14400, -18000⟩, ⟨1805007600, -18000, -14400⟩, ⟨1825567200, -14400, -18000⟩,
    ⟨1836457200, -18000, -14400⟩, ⟨1857016800, -14400, -18000⟩, ⟨1867906800, -18000, -14400⟩, ⟨1888466400, -14400, -18000⟩,
    ⟨1899356400, -18000, -14400⟩, ⟨1919916000, -14400, -18000⟩, ⟨1930806000, -18000, -14400⟩, ⟨1951365600, -14400, -18000⟩,
    ⟨1962860400, -18000, -14400⟩, ⟨1983420000, -14400, -18000⟩, ⟨1994310000, -18000, -14400⟩, ⟨2014869600, -14400, -18000⟩,
    ⟨2025759600, -18000, -14400⟩, ⟨2046319200, -14400, -18000⟩, ⟨2057209200, -18000, -14400⟩, ⟨2077768800, -14400, -18000⟩,
    ⟨2088658800, -18000, -14400⟩, ⟨2109218400, -14400, -18000⟩, ⟨2120108400, -18000, -14400⟩, ⟨2140668000, -14400, -18000⟩]
  footer := "EST5EDT,M3.2.0,M11.1.0"

def Zone.santiago : Zone where
  name := "America/Santiago"
  before := -16965
  transitions := #[
    ⟨-2524504635, -16965, -16965⟩, ⟨-1892661435, -16965, -18000⟩, ⟨-1688410800, -18000, -16965⟩, ⟨-1619205435, -16965, -14400⟩,
    ⟨-1593806400, -14400, -16965⟩, ⟨-1335986235, -16965, -14400⟩, ⟨-1317585600, -14400, -18000⟩, ⟨-1304362800, -18000, -14400⟩,
    ⟨-1286049600, -14400, -18000⟩, ⟨-1272826800, -18000, -14400⟩, ⟨-1254513600, -14400, -18000⟩, ⟨-1241290800, -18000, -14400⟩,
    ⟨-1222977600, -14400, -18000⟩, ⟨-1209754800, -18000, -14400⟩, ⟨-1191355200, -14400, -18000⟩, ⟨-1178132400, -18000, -14400⟩,
    ⟨-870552000, -14400, -18000⟩, ⟨-865278000, -18000, -14400⟩, ⟨-740520000, -14400, -10800⟩, ⟨-736635600, -10800, -14400⟩,
    ⟨-718056000, -14400, -18000⟩, ⟨-713649600, -18000, -14400⟩, ⟨-36619200, -14400, -10800⟩, ⟨-23922000, -10800, -14400⟩,
    ⟨-3355200, -14400, -10800⟩, ⟨7527600, -10800, -14400⟩, ⟨24465600, -14400, -10800⟩, ⟨37767600, -10800, -14400⟩,
    ⟨55915200, -14400, -10800⟩, ⟨69217200, -10800, -14400⟩, ⟨87969600, -14400, -10800⟩, ⟨100666800, -10800, -14400⟩,
    ⟨118209600, -14400, -10800⟩, ⟨132116400, -10800, -14400⟩, ⟨150868800, -14400, -10800⟩, ⟨163566000, -10800, -14400⟩,
    ⟨182318400, -14400, -10800⟩, ⟨195620400, -10800, -14400⟩, ⟨213768000, -14400, -10800⟩, ⟨227070000, -10800, -14400⟩,
    ⟨245217600, -14400, -10800⟩, ⟨258519600, -10800, -14400⟩, ⟨277272000, -14400, -10800⟩, ⟨289969200, -10800, -14400⟩,
    ⟨308721600, -14400, -10800⟩, ⟨321418800, -10800, -14400⟩, ⟨340171200, -14400, -10800⟩, ⟨353473200, -10800, -14400⟩,
    ⟨371620800, -14400, -10800⟩, ⟨384922800, -10800, -14400⟩, ⟨403070400, -14400, -10800⟩, ⟨416372400, -10800, -14400⟩,
    ⟨434520000, -14400, -10800⟩, ⟨447822000, -10800, -14400⟩, ⟨466574400, -14400, -10800⟩, ⟨479271600, -10800, -14400⟩,
    ⟨498024000, -14400, -10800⟩, ⟨510721200, -10800, -14400⟩, ⟨529473600, -14400, -10800⟩, ⟨545194800, -10800, -14400⟩,
    ⟨560923200, -14400, -10800⟩, ⟨574225200, -10800, -14400⟩, ⟨592372800, -14400, -10800⟩, ⟨605674800, -10800, -14400⟩,
    ⟨624427200, -14400, -10800⟩, ⟨637124400, -10800, -14400⟩, ⟨653457600, -14400, -10800⟩, ⟨668574000, -10800, -14400⟩,
    ⟨687326400, -14400, -10800⟩, ⟨700628400, -10800, -14400⟩, ⟨718776000, -14400, -10800⟩, ⟨732078000, -10800, -14400⟩,
    ⟨750225600, -14400, -10800⟩, ⟨763527600, -10800, -14400⟩, ⟨781675200, -14400, -10800⟩, ⟨794977200, -10800, -14400⟩,
    ⟨813729600, -14400, -10800⟩, ⟨826426800, -10800, -14400⟩, ⟨845179200, -14400, -10800⟩, ⟨859690800, -10800, -14400⟩,
    ⟨876628800, -14400, -10800⟩, ⟨889930800, -10800, -14400⟩, ⟨906868800, -14400, -10800⟩, ⟨923194800, -10800, -14400⟩,
    ⟨939528000, -14400, -10800⟩, ⟨952830000, -10800, -14400⟩, ⟨971582400, -14400, -10800⟩, ⟨984279600, -10800, -14400⟩,
    ⟨1003032000, -14400, -10800⟩, ⟨1015729200, -10800, -14400⟩, ⟨1034481600, -14400, -10800⟩, ⟨1047178800, -10800, -14400⟩,
    ⟨1065931200, -14400, -10800⟩, ⟨1079233200, -10800, -14400⟩, ⟨1097380800, -14400, -10800⟩, ⟨1110682800, -10800, -14400⟩,
    ⟨1128830400, -14400, -10800⟩, ⟨1142132400, -10800, -14400⟩, ⟨1160884800, -14400, -10800⟩, ⟨1173582000, -10800, -14400⟩,
    ⟨1192334400, -14400, -10800⟩, ⟨1206846000, -10800, -14400⟩, ⟨1223784000, -14400, -10800⟩, ⟨1237086000, -10800, -14400⟩,
    ⟨1255233600, -14400, -10800⟩, ⟨1270350000, -10800, -14400⟩, ⟨1286683200, -14400, -10800⟩, ⟨1304823600, -10800, -14400⟩,
    ⟨1313899200, -14400, -10800⟩, ⟨1335668400, -10800, -14400⟩, ⟨1346558400, -14400, -10800⟩, ⟨1367118000, -10800, -14400⟩,
    ⟨1378612800, -14400, -10800⟩, ⟨1398567600, -10800, -14400⟩, ⟨1410062400, -14400, -10800⟩, ⟨1463281200, -10800, -14400⟩,
    ⟨1471147200, -14400, -10800⟩, ⟨1494730800, -10800, -14400⟩, ⟨1502596800, -14400, -10800⟩, ⟨1526180400, -10800, -14400⟩,
    ⟨1534046400, -14400, -10800⟩, ⟨1554606000, -10800, -14400⟩, ⟨1567915200, -14400, -10800⟩, ⟨1586055600, -10800, -14400⟩,
    ⟨1599364800, -14400, -10800⟩, ⟨1617505200, -10800, -14400⟩, ⟨1630814400, -14400, -10800⟩, ⟨1648954800, -10800, -14400⟩,
    ⟨1662868800, -14400, -10800⟩, ⟨1680404400, -10800, -14400⟩, ⟨1693713600, -14400, -10800⟩, ⟨1712458800, -10800, -14400⟩,
    ⟨1725768000, -14400, -10800⟩, ⟨1743908400, -10800, -14400⟩, ⟨1757217600, -14400, -10800⟩, ⟨1775358000, -10800, -14400⟩,
    ⟨1788667200, -14400, -10800⟩, ⟨1806807600, -10800, -14400⟩, ⟨1820116800, -14400, -10800⟩, ⟨1838257200, -10800, -14400⟩,
    ⟨1851566400, -14400, -10800⟩, ⟨1870311600, -10800, -14400⟩, ⟨1883016000, -14400, -10800⟩, ⟨1901761200, -10800, -14400⟩,
    ⟨1915070400, -14400, -10800⟩, ⟨1933210800, -10800, -14400⟩, ⟨1946520000, -14400, -10800⟩, ⟨1964660400, -10800, -14400⟩,
    ⟨1977969600, -14400, -10800⟩, ⟨1996110000, -10800, -14400⟩, ⟨2009419200, -14400, -10800⟩, ⟨2027559600, -10800, -14400⟩,
    ⟨2040868800, -14400, -10800⟩, ⟨2059614000, -10800, -14400⟩, ⟨2072318400, -14400, -10800⟩, ⟨2091063600, -10800, -14400⟩,
    ⟨2104372800, -14400, -10800⟩, ⟨2122513200, -10800, -14400⟩, ⟨2135822400, -14400, -10800⟩, ⟨2147483647, -10800, -10800⟩]
  footer := "<-04>4<-03>,M9.1.6/24,M4.1.6/24"

def Zone.kolkata : Zone where
  name := "Asia/Kolkata"
  before := 21208
  transitions := #[
    ⟨-3645237208, 21208, 21200⟩, ⟨-3155694800, 21200, 19270⟩, ⟨-2019705670, 19270, 19800⟩, ⟨-891581400, 19800, 23400⟩,
    ⟨-872058600, 23400, 19800⟩, ⟨-862637400, 19800, 23400⟩, ⟨-764145000, 23400, 19800⟩]
  footer := "IST-5:30"

def Zone.chatham : Zone where
  name := "Pacific/Chatham"
  before := 44028
  transitions := #[
    ⟨-3192437628, 44028, 44100⟩, ⟨-757426500, 44100, 45900⟩, ⟨152632800, 45900, 49500⟩, ⟨162309600, 49500, 45900⟩,
    ⟨183477600, 45900, 49500⟩, ⟨194968800, 49500, 45900⟩, ⟨215532000, 45900, 49500⟩, ⟨226418400, 49500, 45900⟩,
    ⟨246981600, 45900, 49500⟩, ⟨257868000, 49500, 45900⟩, ⟨278431200, 45900, 49500⟩, ⟨289317600, 49500, 45900⟩,
    ⟨309880800, 45900, 49500⟩, ⟨320767200, 49500, 45900⟩, ⟨341330400, 45900, 49500⟩, ⟨352216800, 49500, 45900⟩,
    ⟨372780000, 45900, 49500⟩, ⟨384271200, 49500, 45900⟩, ⟨404834400, 45900, 49500⟩, ⟨415720800, 49500, 45900⟩,
    ⟨436284000, 45900, 49500⟩, ⟨447170400, 49500, 45900⟩, ⟨467733600, 45900, 49500⟩, ⟨478620000, 49500, 45900⟩,
    ⟨499183200, 45900, 49500⟩, ⟨510069600, 49500, 45900⟩, ⟨530632800, 45900, 49500⟩, ⟨541519200, 49500, 45900⟩,
    ⟨562082400, 45900, 49500⟩, ⟨573573600, 49500, 45900⟩, ⟨594136800, 45900, 49500⟩, ⟨605023200, 49500, 45900⟩,
    ⟨623772000, 45900, 49500⟩, ⟨637682400, 49500, 45900⟩, ⟨655221600, 45900, 49500⟩, ⟨669132000, 49500, 45900⟩,
    ⟨686671200, 45900, 49500⟩, ⟨700581600, 49500, 45900⟩, ⟨718120800, 45900, 49500⟩, ⟨732636000, 49500, 45900⟩,
    ⟨749570400, 45900, 49500⟩, ⟨764085600, 49500, 45900⟩, ⟨781020000, 45900, 49500⟩, ⟨795535200, 49500, 45900⟩,
    ⟨812469600, 45900, 49500⟩, ⟨826984800, 49500, 45900⟩, ⟨844524000, 45900, 49500⟩, ⟨858434400, 49500, 45900⟩,
    ⟨875973600, 45900, 49500⟩, ⟨889884000, 49500, 45900⟩, ⟨907423200, 45900, 49500⟩, ⟨921938400, 49500, 45900⟩,
    ⟨938872800, 45900, 49500⟩, ⟨953388000, 49500, 45900⟩, ⟨970322400, 45900, 49500⟩, ⟨984837600, 49500, 45900⟩,
    ⟨1002376800, 45900, 49500⟩, ⟨1016287200, 49500, 45900⟩, ⟨1033826400, 45900, 49500⟩, ⟨1047736800, 49500, 45900⟩,
    ⟨1065276000, 45900, 49500⟩, ⟨1079791200, 49500, 45900⟩, ⟨1096725600, 45900, 49500⟩, ⟨1111240800, 49500, 45900⟩,
    ⟨1128175200, 45900, 49500⟩, ⟨1142690400, 49500, 45900⟩, ⟨1159624800, 45900, 49500⟩, ⟨1174140000, 49500, 45900⟩,
    ⟨1191074400, 45900, 49500⟩, ⟨1207404000, 49500, 45900⟩, ⟨1222524000, 45900, 49500⟩, ⟨1238853600, 49500, 45900⟩,
    ⟨1253973600, 45900, 49500⟩, ⟨1270303200, 49500, 45900⟩, ⟨1285423200, 45900, 49500⟩, ⟨1301752800, 49500, 45900⟩,
    ⟨1316872800, 45900, 49500⟩, ⟨1333202400, 49500, 45900⟩, ⟨1348927200, 45900, 49500⟩, ⟨1365256800, 49500, 45900⟩,
    ⟨1380376800, 45900, 49500⟩, ⟨1396706400, 49500, 45900⟩, ⟨1411826400, 45900, 49500⟩, ⟨1428156000, 49500, 45900⟩,
    ⟨1443276000, 45900, 49500⟩, ⟨1459605600, 49500, 45900⟩, ⟨1474725600, 45900, 49500⟩, ⟨1491055200, 49500, 45900⟩,
    ⟨1506175200, 45900, 49500⟩, ⟨1522504800, 49500, 45900⟩, ⟨1538229600, 45900, 49500⟩, ⟨1554559200, 49500, 45900⟩,
    ⟨1569679200, 45900, 49500⟩, ⟨1586008800, 49500, 45900⟩, ⟨1601128800, 45900, 49500⟩, ⟨1617458400, 49500, 45900⟩,
    ⟨1632578400, 45900, 49500⟩, ⟨1648908000, 49500, 45900⟩, ⟨1664028000, 45900, 49500⟩, ⟨1680357600, 49500, 45900⟩,
    ⟨1695477600, 45900, 49500⟩, ⟨1712412000, 49500, 45900⟩, ⟨1727532000, 45900, 49500⟩, ⟨1743861600, 49500, 45900⟩,
    ⟨1758981600, 45900, 49500⟩, ⟨1775311200, 49500, 45900⟩, ⟨1790431200, 45900, 49500⟩, ⟨1806760800, 49500, 45900⟩,
    ⟨1821880800, 45900, 49500⟩, ⟨1838210400, 49500, 45900⟩, ⟨1853330400, 45900, 49500⟩, ⟨1869660000, 49500, 45900⟩,
    ⟨1885384800, 45900, 49500⟩, ⟨1901714400, 49500, 45900⟩, ⟨1916834400, 45900, 49500⟩, ⟨1933164000, 49500, 45900⟩,
    ⟨1948284000, 45900, 49500⟩, ⟨1964613600, 49500, 45900⟩, ⟨1979733600, 45900, 49500⟩, ⟨1996063200, 49500, 45900⟩,
    ⟨2011183200, 45900, 49500⟩, ⟨2027512800, 49500, 45900⟩, ⟨2042632800, 45900, 49500⟩, ⟨2058962400, 49500, 45900⟩,
    ⟨2074687200, 45900, 49500⟩, ⟨2091016800, 49500, 45900⟩, ⟨2106136800, 45900, 49500⟩, ⟨2122466400, 49500, 45900⟩,
    ⟨2137586400, 45900, 49500⟩, ⟨2147483647, 49500, 49500⟩]
  footer := "<+1245>-12:45<+1345>,M9.5.0/2:45,M4.1.0/3:45"

def Zone.london : Zone where
  name := "Europe/London"
  before := -75
  transitions := #[
    ⟨-3852662325, -75, 0⟩, ⟨-1691964000, 0, 3600⟩, ⟨-1680472800, 3600, 0⟩, ⟨-1664143200, 0, 3600⟩,
    ⟨-1650146400, 3600, 0⟩, ⟨-1633903200, 0, 3600⟩, ⟨-1617487200, 3600, 0⟩, ⟨-1601848800, 0, 3600⟩,
    ⟨-1586037600, 3600, 0⟩, ⟨-1570399200, 0, 3600⟩, ⟨-1552168800, 3600, 0⟩, ⟨-1538344800, 0, 3600⟩,
    ⟨-1522533600, 3600, 0⟩, ⟨-1507500000, 0, 3600⟩, ⟨-1490565600, 3600, 0⟩, ⟨-1473631200, 0, 3600⟩,
    ⟨-1460930400, 3600, 0⟩, ⟨-1442786400, 0, 3600⟩, ⟨-1428876000, 3600, 0⟩, ⟨-1410732000, 0, 3600⟩,
    ⟨-1396216800, 3600, 0⟩, ⟨-1379282400, 0, 3600⟩, ⟨-1364767200, 3600, 0⟩, ⟨-1348437600, 0, 3600⟩,
    ⟨-1333317600, 3600, 0⟩, ⟨-1315778400, 0, 3600⟩, ⟨-1301263200, 3600, 0⟩, ⟨-1284328800, 0, 3600⟩,
    ⟨-1269813600, 3600, 0⟩, ⟨-1253484000, 0, 3600⟩, ⟨-1238364000, 3600, 0⟩, ⟨-1221429600, 0, 3600⟩,
    ⟨-1206914400, 3600, 0⟩, ⟨-1189980000, 0, 3600⟩, ⟨-1175464800, 3600, 0⟩, ⟨-1159135200, 0, 3600⟩,
    ⟨-1143410400, 3600, 0⟩, ⟨-1126476000, 0, 3600⟩, ⟨-1111960800, 3600, 0⟩, ⟨-1095631200, 0, 3600⟩,
    ⟨-1080511200, 3600, 0⟩, ⟨-1063576800, 0, 3600⟩, ⟨-1049061600, 3600, 0⟩, ⟨-1032127200, 0, 3600⟩,
    ⟨-1017612000, 3600, 0⟩, ⟨-1001282400, 0, 3600⟩, ⟨-986162400, 3600, 0⟩, ⟨-969228000, 0, 3600⟩,
    ⟨-950479200, 3600, 0⟩, ⟨-942012000, 0, 3600⟩, ⟨-904518000, 3600, 7200⟩, ⟨-896050800, 7200, 3600⟩,
    ⟨-875487600, 3600, 7200⟩, ⟨-864601200, 7200, 3600⟩, ⟨-844038000, 3600, 7200⟩, ⟨-832546800, 7200, 3600⟩,
    ⟨-812588400, 3600, 7200⟩, ⟨-798073200, 7200, 3600⟩, ⟨-781052400, 3600, 7200⟩, ⟨-772066800, 7200, 3600⟩,
    ⟨-764805600, 3600, 0⟩, ⟨-748476000, 0, 3600⟩, ⟨-733356000, 3600, 0⟩, ⟨-719445600, 0, 3600⟩,
    ⟨-717030000, 3600, 7200⟩, ⟨-706748400, 7200, 3600⟩, ⟨-699487200, 3600, 0⟩, ⟨-687996000, 0, 3600⟩,
    ⟨-668037600, 3600, 0⟩, ⟨-654732000, 0, 3600⟩, ⟨-636588000, 3600, 0⟩, ⟨-622072800, 0, 3600⟩,
    ⟨-605743200, 3600, 0⟩, ⟨-590623200, 0, 3600⟩, ⟨-574293600, 3600, 0⟩, ⟨-558568800, 0, 3600⟩,
    ⟨-542239200, 3600, 0⟩, ⟨-527119200, 0, 3600⟩, ⟨-512604000, 3600, 0⟩, ⟨-496274400, 0, 3600⟩,
    ⟨-481154400, 3600, 0⟩, ⟨-464220000, 0, 3600⟩, ⟨-449704800, 3600, 0⟩, ⟨-432165600, 0, 3600⟩,
    ⟨-417650400, 3600, 0⟩, ⟨-401320800, 0, 3600⟩, ⟨-386200800, 3600, 0⟩, ⟨-369266400, 0, 3600⟩,
    ⟨-354751200, 3600, 0⟩, ⟨-337816800, 0, 3600⟩, ⟨-323301600, 3600, 0⟩, ⟨-306972000, 0, 3600⟩,
    ⟨-291852000, 3600, 0⟩, ⟨-276732000, 0, 3600⟩, ⟨-257983200, 3600, 0⟩, ⟨-245282400, 0, 3600⟩,
    ⟨-226533600, 3600, 0⟩, ⟨-213228000, 0, 3600⟩, ⟨-195084000, 3600, 0⟩, ⟨-182383200, 0, 3600⟩,
    ⟨-163634400, 3600, 0⟩, ⟨-150933600, 0, 3600⟩, ⟨-132184800, 3600, 0⟩, ⟨-119484000, 0, 3600⟩,
    ⟨-100735200, 3600, 0⟩, ⟨-88034400, 0, 3600⟩, ⟨-68680800, 3600, 0⟩, ⟨-59004000, 0, 3600⟩,
    ⟨-37242000, 3600, 3600⟩, ⟨57722400, 3600, 0⟩, ⟨69818400, 0, 3600⟩, ⟨89172000, 3600, 0⟩,
    ⟨101268000, 0, 3600⟩, ⟨120621600, 3600, 0⟩, ⟨132717600, 0, 3600⟩, ⟨152071200, 3600, 0⟩,
    ⟨164167200, 0, 3600⟩, ⟨183520800, 3600, 0⟩, ⟨196221600, 0, 3600⟩, ⟨214970400, 3600, 0⟩,
    ⟨227671200, 0, 3600⟩, ⟨246420000, 3600, 0⟩, ⟨259120800, 0, 3600⟩, ⟨278474400, 3600, 0⟩,
    ⟨290570400, 0, 3600⟩, ⟨309924000, 3600, 0⟩, ⟨322020000, 0, 3600⟩, ⟨341373600, 3600, 0⟩,
    ⟨354675600, 0, 3600⟩, ⟨372819600, 3600, 0⟩, ⟨386125200, 0, 3600⟩, ⟨404269200, 3600, 0⟩,
    ⟨417574800, 0, 3600⟩, ⟨435718800, 3600, 0⟩, ⟨449024400, 0, 3600⟩, ⟨467773200, 3600, 0⟩,
    ⟨481078800, 0, 3600⟩, ⟨499222800, 3600, 0⟩, ⟨512528400, 0, 3600⟩, ⟨530672400, 3600, 0⟩,
    ⟨543978000, 0, 3600⟩, ⟨562122000, 3600, 0⟩, ⟨575427600, 0, 3600⟩, ⟨593571600, 3600, 0⟩,
    ⟨606877200, 0, 3600⟩, ⟨625626000, 3600, 0⟩, ⟨638326800, 0, 3600⟩, ⟨657075600, 3600, 0⟩,
    ⟨670381200, 0, 3600⟩, ⟨688525200, 3600, 0⟩, ⟨701830800, 0, 3600⟩, ⟨719974800, 3600, 0⟩,
    ⟨733280400, 0, 3600⟩, ⟨751424400, 3600, 0⟩, ⟨764730000, 0, 3600⟩, ⟨782874000, 3600, 0⟩,
    ⟨796179600, 0, 3600⟩, ⟨814323600, 3600, 0⟩, ⟨828234000, 0, 3600⟩, ⟨846378000, 3600, 0⟩,
    ⟨859683600, 0, 3600⟩, ⟨877827600, 3600, 0⟩, ⟨891133200, 0, 3600⟩, ⟨909277200, 3600, 0⟩,
    ⟨922582800, 0, 3600⟩, ⟨941331600, 3600, 0⟩, ⟨954032400, 0, 3600⟩, ⟨972781200, 3600, 0⟩,
    ⟨985482000, 0, 3600⟩, ⟨1004230800, 3600, 0⟩, ⟨1017536400, 0, 3600⟩, ⟨1035680400, 3600, 0⟩,
    ⟨1048986000, 0, 3600⟩, ⟨1067130000, 3600, 0⟩, ⟨1080435600, 0, 3600⟩, ⟨1099184400, 3600, 0⟩,
    ⟨1111885200, 0, 3600⟩, ⟨1130634000, 3600, 0⟩, ⟨1143334800, 0, 3600⟩, ⟨1162083600, 3600, 0⟩,
    ⟨1174784400, 0, 3600⟩, ⟨1193533200, 3600, 0⟩, ⟨1206838800, 0, 3600⟩, ⟨1224982800, 3600, 0⟩,
    ⟨1238288400, 0, 3600⟩, ⟨1256432400, 3600, 0⟩, ⟨1269738000, 0, 3600⟩, ⟨1288486800, 3600, 0⟩,
    ⟨1301187600, 0, 3600⟩, ⟨1319936400, 3600, 0⟩, ⟨1332637200, 0, 3600⟩, ⟨1351386000, 3600, 0⟩,
    ⟨1364691600, 0, 3600⟩, ⟨1382835600, 3600, 0⟩, ⟨1396141200, 0, 3600⟩, ⟨1414285200, 3600, 0⟩,
    ⟨1427590800, 0, 3600⟩, ⟨1445734800, 3600, 0⟩, ⟨1459040400, 0, 3600⟩, ⟨1477789200, 3600, 0⟩,
    ⟨1490490000, 0, 3600⟩, ⟨1509238800, 3600, 0⟩, ⟨1521939600, 0, 3600⟩, ⟨1540688400, 3600, 0⟩,
    ⟨1553994000, 0, 3600⟩, ⟨1572138000, 3600, 0⟩, ⟨1585443600, 0, 3600⟩, ⟨1603587600, 3600, 0⟩,
    ⟨1616893200, 0, 3600⟩, ⟨1635642000, 3600, 0⟩, ⟨1648342800, 0, 3600⟩, ⟨1667091600, 3600, 0⟩,
    ⟨1679792400, 0, 3600⟩, ⟨1698541200, 3600, 0⟩, ⟨1711846800, 0, 3600⟩, ⟨1729990800, 3600, 0⟩,
    ⟨1743296400, 0, 3600⟩, ⟨1761440400, 3600, 0⟩, ⟨1774746000, 0, 3600⟩, ⟨1792890000, 3600, 0⟩,
    ⟨1806195600, 0, 3600⟩, ⟨1824944400, 3600, 0⟩, ⟨1837645200, 0, 3600⟩, ⟨1856394000, 3600, 0⟩,
    ⟨1869094800, 0, 3600⟩, ⟨1887843600, 3600, 0⟩, ⟨1901149200, 0, 3600⟩, ⟨1919293200, 3600, 0⟩,
    ⟨1932598800, 0, 3600⟩, ⟨1950742800, 3600, 0⟩, ⟨1964048400, 0, 3600⟩, ⟨1982797200, 3600, 0⟩,
    ⟨1995498000, 0, 3600⟩, ⟨2014246800, 3600, 0⟩, ⟨2026947600, 0, 3600⟩, ⟨2045696400, 3600, 0⟩,
    ⟨2058397200, 0, 3600⟩, ⟨2077146000, 3600, 0⟩, ⟨2090451600, 0, 3600⟩, ⟨2108595600, 3600, 0⟩,
    ⟨2121901200, 0, 3600⟩, ⟨2140045200, 3600, 0⟩]
  footer := "GMT0BST,M3.5.0/1,M10.5.0"

def Zone.utc : Zone where
  name := "UTC"
  before := 0
  transitions := #[]
  footer := "UTC0"

def Zone.havana : Zone where
  name := "America/Havana"
  before := -19768
  transitions := #[
    ⟨-2524501832, -19768, -19776⟩, ⟨-1402813824, -19776, -18000⟩, ⟨-1311534000, -18000, -14400⟩, ⟨-1300996800, -14400, -18000⟩,
    ⟨-933534000, -18000, -14400⟩, ⟨-925675200, -14400, -18000⟩, ⟨-902084400, -18000, -14400⟩, ⟨-893620800, -14400, -18000⟩,
    ⟨-870030000, -18000, -14400⟩, ⟨-862171200, -14400, -18000⟩, ⟨-775681200, -18000, -14400⟩, ⟨-767822400, -14400, -18000⟩,
    ⟨-744231600, -18000, -14400⟩, ⟨-736372800, -14400, -18000⟩, ⟨-144702000, -18000, -14400⟩, ⟨-134251200, -14400, -18000⟩,
    ⟨-113425200, -18000, -14400⟩, ⟨-102542400, -14400, -18000⟩, ⟨-86295600, -18000, -14400⟩, ⟨-72907200, -14400, -18000⟩,
    ⟨-54154800, -18000, -14400⟩, ⟨-41457600, -14400, -18000⟩, ⟨-21495600, -18000, -14400⟩, ⟨-5774400, -14400, -18000⟩,
    ⟨9954000, -18000, -14400⟩, ⟨25675200, -14400, -18000⟩, ⟨41403600, -18000, -14400⟩, ⟨57729600, -14400, -18000⟩,
    ⟨73458000, -18000, -14400⟩, ⟨87364800, -14400, -18000⟩, ⟨104907600, -18000, -14400⟩, ⟨118900800, -14400, -18000⟩,
    ⟨136357200, -18000, -14400⟩, ⟨150436800, -14400, -18000⟩, ⟨167806800, -18000, -14400⟩, ⟨183528000, -14400, -18000⟩,
    ⟨199256400, -18000, -14400⟩, ⟨215582400, -14400, -18000⟩, ⟨230706000, -18000, -14400⟩, ⟨247032000, -14400, -18000⟩,
    ⟨263365200, -18000, -14400⟩, ⟨276667200, -14400, -18000⟩, ⟨290581200, -18000, -14400⟩, ⟨308721600, -14400, -18000⟩,
    ⟨322030800, -18000, -14400⟩, ⟨340171200, -14400, -18000⟩, ⟨358318800, -18000, -14400⟩, ⟨371620800, -14400, -18000⟩,
    ⟨389768400, -18000, -14400⟩, ⟨403070400, -14400, -18000⟩, ⟨421218000, -18000, -14400⟩, ⟨434520000, -14400, -18000⟩,
    ⟨452667600, -18000, -14400⟩, ⟨466574400, -14400, -18000⟩, ⟨484117200, -18000, -14400⟩, ⟨498024000, -14400, -18000⟩,
    ⟨511333200, -18000, -14400⟩, ⟨529473600, -14400, -18000⟩, ⟨542782800, -18000, -14400⟩, ⟨560923200, -14400, -18000⟩,
    ⟨574837200, -18000, -14400⟩, ⟨592372800, -14400, -18000⟩, ⟨606286800, -18000, -14400⟩, ⟨623822400, -14400, -18000⟩,
    ⟨638946000, -18000, -14400⟩, ⟨655876800, -14400, -18000⟩, ⟨671000400, -18000, -14400⟩, ⟨687330000, -14400, -18000⟩,
    ⟨702450000, -18000, -14400⟩, ⟨718779600, -14400, -18000⟩, ⟨733899600, -18000, -14400⟩, ⟨750229200, -14400, -18000⟩,
    ⟨765349200, -18000, -14400⟩, ⟨781678800, -14400, -18000⟩, ⟨796798800, -18000, -14400⟩, ⟨813128400, -14400, -18000⟩,
    ⟨828853200, -18000, -14400⟩, ⟨844578000, -14400, -18000⟩, ⟨860302800, -18000, -14400⟩, ⟨876632400, -14400, -18000⟩,
    ⟨891147600, -18000, -14400⟩, ⟨909291600, -14400, -18000⟩, ⟨922597200, -18000, -14400⟩, ⟨941346000, -14400, -18000⟩,
    ⟨954651600, -18000, -14400⟩, ⟨972795600, -14400, -18000⟩, ⟨986101200, -18000, -14400⟩, ⟨1004245200, -14400, -18000⟩,
    ⟨1018155600, -18000, -14400⟩, ⟨1035694800, -14400, -18000⟩, ⟨1049605200, -18000, -14400⟩, ⟨1067144400, -14400, -18000⟩,
    ⟨1080450000, -18000, -14400⟩, ⟨1162098000, -14400, -18000⟩, ⟨1173589200, -18000, -14400⟩, ⟨1193547600, -14400, -18000⟩,
    ⟨1205643600, -18000, -14400⟩, ⟨1224997200, -14400, -18000⟩, ⟨1236488400, -18000, -14400⟩, ⟨1256446800, -14400, -18000⟩,
    ⟨1268542800, -18000, -14400⟩, ⟨1288501200, -14400, -18000⟩, ⟨1300597200, -18000, -14400⟩, ⟨1321160400, -14400, -18000⟩,
    ⟨1333256400, -18000, -14400⟩, ⟨1352005200, -14400, -18000⟩, ⟨1362891600, -18000, -14400⟩, ⟨1383454800, -14400, -18000⟩,
    ⟨1394341200, -18000, -14400⟩, ⟨1414904400, -14400, -18000⟩, ⟨1425790800, -18000, -14400⟩, ⟨1446354000, -14400, -18000⟩,
    ⟨1457845200, -18000, -14400⟩, ⟨1478408400, -14400, -18000⟩, ⟨1489294800, -18000, -14400⟩, ⟨1509858000, -14400, -18000⟩,
    ⟨1520744400, -18000, -14400⟩, ⟨1541307600, -14400, -18000⟩, ⟨1552194000, -18000, -14400⟩, ⟨1572757200, -14400, -18000⟩,
    ⟨1583643600, -18000, -14400⟩, ⟨1604206800, -14400, -18000⟩, ⟨1615698000, -18000, -14400⟩, ⟨1636261200, -14400, -18000⟩,
    ⟨1647147600, -18000, -14400⟩, ⟨1667710800, -14400, -18000⟩, ⟨1678597200, -18000, -14400⟩, ⟨1699160400, -14400, -18000⟩,
    ⟨1710046800, -18000, -14400⟩, ⟨1730610000, -14400, -18000⟩, ⟨1741496400, -18000, -14400⟩, ⟨1762059600, -14400, -18000⟩,
    ⟨1772946000, -18000, -14400⟩]
  footer := "CDT4"

def Zone.lordHowe : Zone where
  name := "Australia/Lord_Howe"
  before := 38180
  transitions := #[
    ⟨-2364114980, 38180, 36000⟩, ⟨352216800, 36000, 37800⟩, ⟨372785400, 37800, 41400⟩, ⟨384273000, 41400, 37800⟩,
    ⟨404839800, 37800, 41400⟩, ⟨415722600, 41400, 37800⟩, ⟨436289400, 37800, 41400⟩, ⟨447172200, 41400, 37800⟩,
    ⟨467739000, 37800, 41400⟩, ⟨478621800, 41400, 37800⟩, ⟨499188600, 37800, 39600⟩, ⟨511282800, 39600, 37800⟩,
    ⟨530033400, 37800, 39600⟩, ⟨542732400, 39600, 37800⟩, ⟨562087800, 37800, 39600⟩, ⟨574786800, 39600, 37800⟩,
    ⟨594142200, 37800, 39600⟩, ⟨606236400, 39600, 37800⟩, ⟨625591800, 37800, 39600⟩, ⟨636476400, 39600, 37800⟩,
    ⟨657041400, 37800, 39600⟩, ⟨667926000, 39600, 37800⟩, ⟨688491000, 37800, 39600⟩, ⟨699375600, 39600, 37800⟩,
    ⟨719940600, 37800, 39600⟩, ⟨731430000, 39600, 37800⟩, ⟨751995000, 37800, 39600⟩, ⟨762879600, 39600, 37800⟩,
    ⟨783444600, 37800, 39600⟩, ⟨794329200, 39600, 37800⟩, ⟨814894200, 37800, 39600⟩, ⟨828198000, 39600, 37800⟩,
    ⟨846343800, 37800, 39600⟩, ⟨859647600, 39600, 37800⟩, ⟨877793400, 37800, 39600⟩, ⟨891097200, 39600, 37800⟩,
    ⟨909243000, 37800, 39600⟩, ⟨922546800, 39600, 37800⟩, ⟨941297400, 37800, 39600⟩, ⟨953996400, 39600, 37800⟩,
    ⟨967303800, 37800, 39600⟩, ⟨985446000, 39600, 37800⟩, ⟨1004196600, 37800, 39600⟩, ⟨1017500400, 39600, 37800⟩,
    ⟨1035646200, 37800, 39600⟩, ⟨1048950000, 39600, 37800⟩, ⟨1067095800, 37800, 39600⟩, ⟨1080399600, 39600, 37800⟩,
    ⟨1099150200, 37800, 39600⟩, ⟨1111849200, 39600, 37800⟩, ⟨1130599800, 37800, 39600⟩, ⟨1143903600, 39600, 37800⟩,
    ⟨1162049400, 37800, 39600⟩, ⟨1174748400, 39600, 37800⟩, ⟨1193499000, 37800, 39600⟩, ⟨1207407600, 39600, 37800⟩,
    ⟨1223134200, 37800, 39600⟩, ⟨1238857200, 39600, 37800⟩, ⟨1254583800, 37800, 39600⟩, ⟨1270306800, 39600, 37800⟩,
    ⟨1286033400, 37800, 39600⟩, ⟨1301756400, 39600, 37800⟩, ⟨1317483000, 37800, 39600⟩, ⟨1333206000, 39600, 37800⟩,
    ⟨1349537400, 37800, 39600⟩, ⟨1365260400, 39600, 37800⟩, ⟨1380987000, 37800, 39600⟩, ⟨1396710000, 39600, 37800⟩,
    ⟨1412436600, 37800, 39600⟩, ⟨1428159600, 39600, 37800⟩, ⟨1443886200, 37800, 39600⟩, ⟨1459609200, 39600, 37800⟩,
    ⟨1475335800, 37800, 39600⟩, ⟨1491058800, 39600, 37800⟩, ⟨1506785400, 37800, 39600⟩, ⟨1522508400, 39600, 37800⟩,
    ⟨1538839800, 37800, 39600⟩, ⟨1554562800, 39600, 37800⟩, ⟨1570289400, 37800, 39600⟩, ⟨1586012400, 39600, 37800⟩,
    ⟨1601739000, 37800, 39600⟩, ⟨1617462000, 39600, 37800⟩, ⟨1633188600, 37800, 39600⟩, ⟨1648911600, 39600, 37800⟩,
    ⟨1664638200, 37800, 39600⟩, ⟨1680361200, 39600, 37800⟩, ⟨1696087800, 37800, 39600⟩, ⟨1712415600, 39600, 37800⟩,
    ⟨1728142200, 37800, 39600⟩, ⟨1743865200, 39600, 37800⟩, ⟨1759591800, 37800, 39600⟩, ⟨1775314800, 39600, 37800⟩,
    ⟨1791041400, 37800, 39600⟩, ⟨1806764400, 39600, 37800⟩, ⟨1822491000, 37800, 39600⟩, ⟨1838214000, 39600, 37800⟩,
    ⟨1853940600, 37800, 39600⟩, ⟨1869663600, 39600, 37800⟩, ⟨1885995000, 37800, 39600⟩, ⟨1901718000, 39600, 37800⟩,
    ⟨1917444600, 37800, 39600⟩, ⟨1933167600, 39600, 37800⟩, ⟨1948894200, 37800, 39600⟩, ⟨1964617200, 39600, 37800⟩,
    ⟨1980343800, 37800, 39600⟩, ⟨1996066800, 39600, 37800⟩, ⟨2011793400, 37800, 39600⟩, ⟨2027516400, 39600, 37800⟩,
    ⟨2043243000, 37800, 39600⟩, ⟨2058966000, 39600, 37800⟩, ⟨2075297400, 37800, 39600⟩, ⟨2091020400, 39600, 37800⟩,
    ⟨2106747000, 37800, 39600⟩, ⟨2122470000, 39600, 37800⟩, ⟨2138196600, 37800, 39600⟩, ⟨2147483647, 39600, 39600⟩]
  footer := "<+1030>-10:30<+11>-11,M10.1.0,M4.1.0"

def Zone.known : List Zone :=
  [Zone.newYork, Zone.santiago, Zone.kolkata, Zone.chatham, Zone.london, Zone.utc, Zone.havana, Zone.lordHowe]

def Zone.named? (name : String) : Option Zone :=
  Zone.known.find? (·.name == name)

end NaturalQuery.Time
