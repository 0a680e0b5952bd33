import CronSchedule.Zone.Yearly

/-!
# The zones of the Americas

Offsets in seconds from 1965 on. In North America clocks change at two in the
morning.
-/

set_option autoImplicit false

namespace CronSchedule.ZoneTable

/-- The zone of Caracas. -/
def caracas : ZoneTable :=
  ofRecord "America/Caracas" (-16200)
    [(-157750200, -14400), (1197183600, -16200), (1462086000, -14400)]
    []

/-- The zone of New York. -/
def newYork : ZoneTable :=
  ofRecord "America/New_York" (-18000)
    [(-147891600, -14400), (-131565600, -18000), (-116442000, -14400), (-100116000, -18000),
     (-84387600, -14400), (-68666400, -18000), (-52938000, -14400), (-37216800, -18000),
     (-21488400, -14400), (-5767200, -18000), (9961200, -14400), (25682400, -18000),
     (41410800, -14400), (57736800, -18000), (73465200, -14400), (89186400, -18000),
     (104914800, -14400), (120636000, -18000), (126687600, -14400), (152085600, -18000),
     (162370800, -14400), (183535200, -18000), (199263600, -14400), (215589600, -18000),
     (230713200, -14400), (247039200, -18000), (262767600, -14400), (278488800, -18000),
     (294217200, -14400), (309938400, -18000), (325666800, -14400), (341388000, -18000),
     (357116400, -14400), (372837600, -18000), (388566000, -14400), (404892000, -18000),
     (420015600, -14400), (436341600, -18000), (452070000, -14400), (467791200, -18000),
     (483519600, -14400), (499240800, -18000), (514969200, -14400), (530690400, -18000),
     (544604400, -14400), (562140000, -18000), (576054000, -14400), (594194400, -18000),
     (607503600, -14400), (625644000, -18000), (638953200, -14400), (657093600, -18000),
     (671007600, -14400), (688543200, -18000), (702457200, -14400), (719992800, -18000),
     (733906800, -14400), (752047200, -18000), (765356400, -14400), (783496800, -18000),
     (796806000, -14400), (814946400, -18000), (828860400, -14400), (846396000, -18000),
     (860310000, -14400), (877845600, -18000), (891759600, -14400), (909295200, -18000),
     (923209200, -14400), (941349600, -18000), (954658800, -14400), (972799200, -18000),
     (986108400, -14400), (1004248800, -18000), (1018162800, -14400), (1035698400, -18000),
     (1049612400, -14400), (1067148000, -18000), (1081062000, -14400), (1099202400, -18000),
     (1112511600, -14400), (1130652000, -18000), (1143961200, -14400), (1162101600, -18000)]
    (yearlyChanges 2007
      [⟨3, 8, 7200, -18000, -14400⟩, ⟨11, 1, 7200, -14400, -18000⟩])

/-- The zone of the eastern United States, which is that of New York under another name. -/
def usEastern : ZoneTable := { newYork with name := "US/Eastern" }

/-- The zone of Sao Paulo. -/
def saoPaulo : ZoneTable :=
  ofRecord "America/Sao_Paulo" (-10800)
    [(-155163600, -7200), (-150069600, -10800), (-128898000, -7200), (-121125600, -10800),
     (-99954000, -7200), (-89589600, -10800), (-68418000, -7200), (-57967200, -10800),
     (499748400, -7200), (511236000, -10800), (530593200, -7200), (540266400, -10800),
     (562129200, -7200), (571197600, -10800), (592974000, -7200), (602042400, -10800),
     (624423600, -7200), (634701600, -10800), (656478000, -7200), (666756000, -10800),
     (687927600, -7200), (697600800, -10800), (719982000, -7200), (728445600, -10800),
     (750826800, -7200), (761709600, -10800), (782276400, -7200), (793159200, -10800),
     (813726000, -7200), (824004000, -10800), (844570800, -7200), (856058400, -10800),
     (876106800, -7200), (888717600, -10800), (908074800, -7200), (919562400, -10800),
     (938919600, -7200), (951616800, -10800), (970974000, -7200), (982461600, -10800),
     (1003028400, -7200), (1013911200, -10800), (1036292400, -7200), (1045360800, -10800),
     (1066532400, -7200), (1076810400, -10800), (1099364400, -7200), (1108864800, -10800),
     (1129431600, -7200), (1140314400, -10800), (1162695600, -7200), (1172368800, -10800),
     (1192330800, -7200), (1203213600, -10800), (1224385200, -7200), (1234663200, -10800),
     (1255834800, -7200), (1266717600, -10800), (1287284400, -7200), (1298167200, -10800),
     (1318734000, -7200), (1330221600, -10800), (1350788400, -7200), (1361066400, -10800),
     (1382238000, -7200), (1392516000, -10800), (1413687600, -7200), (1424570400, -10800),
     (1445137200, -7200), (1456020000, -10800), (1476586800, -7200), (1487469600, -10800),
     (1508036400, -7200), (1518919200, -10800), (1541300400, -7200), (1550368800, -10800)]
    []

/-- The zone of St Johns. -/
def stJohns : ZoneTable :=
  ofRecord "America/St_Johns" (-12600)
    [(-147897000, -9000), (-131571000, -12600), (-116447400, -9000), (-100121400, -12600),
     (-84393000, -9000), (-68671800, -12600), (-52943400, -9000), (-37222200, -12600),
     (-21493800, -9000), (-5772600, -12600), (9955800, -9000), (25677000, -12600),
     (41405400, -9000), (57731400, -12600), (73459800, -9000), (89181000, -12600),
     (104909400, -9000), (120630600, -12600), (136359000, -9000), (152080200, -12600),
     (167808600, -9000), (183529800, -12600), (199258200, -9000), (215584200, -12600),
     (230707800, -9000), (247033800, -12600), (262762200, -9000), (278483400, -12600),
     (294211800, -9000), (309933000, -12600), (325661400, -9000), (341382600, -12600),
     (357111000, -9000), (372832200, -12600), (388560600, -9000), (404886600, -12600),
     (420010200, -9000), (436336200, -12600), (452064600, -9000), (467785800, -12600),
     (483514200, -9000), (499235400, -12600), (514963800, -9000), (530685000, -12600),
     (544591860, -9000), (562127460, -12600), (576041460, -5400), (594178260, -12600),
     (607491060, -9000), (625631460, -12600), (638940660, -9000), (657081060, -12600),
     (670995060, -9000), (688530660, -12600), (702444660, -9000), (719980260, -12600),
     (733894260, -9000), (752034660, -12600), (765343860, -9000), (783484260, -12600),
     (796793460, -9000), (814933860, -12600), (828847860, -9000), (846383460, -12600),
     (860297460, -9000), (877833060, -12600), (891747060, -9000), (909282660, -12600),
     (923196660, -9000), (941337060, -12600), (954646260, -9000), (972786660, -12600),
     (986095860, -9000), (1004236260, -12600), (1018150260, -9000), (1035685860, -12600),
     (1049599860, -9000), (1067135460, -12600), (1081049460, -9000), (1099189860, -12600),
     (1112499060, -9000), (1130639460, -12600), (1143948660, -9000), (1162089060, -12600),
     (1173583860, -9000), (1194143460, -12600), (1205033460, -9000), (1225593060, -12600),
     (1236483060, -9000), (1257042660, -12600), (1268537460, -9000), (1289097060, -12600),
     (1299987060, -9000), (1320553800, -12600)]
    (yearlyChanges 2012
      [⟨3, 8, 7200, -12600, -9000⟩, ⟨11, 1, 7200, -9000, -12600⟩])

end CronSchedule.ZoneTable
