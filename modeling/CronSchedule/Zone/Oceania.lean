import CronSchedule.Zone.Yearly

/-!
# The zones of Australia, the Antarctic and the Pacific

Offsets in seconds from 1965 on. Some of these zones change by half an hour, or
have moved across the date line.
-/

set_option autoImplicit false

namespace CronSchedule.ZoneTable

/-- The zone of Lord Howe. -/
def lordHowe : ZoneTable :=
  ofRecord "Australia/Lord_Howe" 36000
    [(352216800, 37800), (372785400, 41400), (384273000, 37800), (404839800, 41400),
     (415722600, 37800), (436289400, 41400), (447172200, 37800), (467739000, 41400),
     (478621800, 37800), (499188600, 39600), (511282800, 37800), (530033400, 39600),
     (542732400, 37800), (562087800, 39600), (574786800, 37800), (594142200, 39600),
     (606236400, 37800), (625591800, 39600), (636476400, 37800), (657041400, 39600),
     (667926000, 37800), (688491000, 39600), (699375600, 37800), (719940600, 39600),
     (731430000, 37800), (751995000, 39600), (762879600, 37800), (783444600, 39600),
     (794329200, 37800), (814894200, 39600), (828198000, 37800), (846343800, 39600),
     (859647600, 37800), (877793400, 39600), (891097200, 37800), (909243000, 39600),
     (922546800, 37800), (941297400, 39600), (953996400, 37800), (967303800, 39600),
     (985446000, 37800), (1004196600, 39600), (1017500400, 37800), (1035646200, 39600),
     (1048950000, 37800), (1067095800, 39600), (1080399600, 37800), (1099150200, 39600),
     (1111849200, 37800), (1130599800, 39600), (1143903600, 37800), (1162049400, 39600),
     (1174748400, 37800), (1193499000, 39600)]
    (yearlyChanges 2008
      [⟨4, 1, 7200, 39600, 37800⟩, ⟨10, 1, 7200, 37800, 39600⟩])

/-- The zone of Sydney. -/
def sydney : ZoneTable :=
  ofRecord "Australia/Sydney" 36000
    [(57686400, 39600), (67968000, 36000), (89136000, 39600), (100022400, 36000),
     (120585600, 39600), (131472000, 36000), (152035200, 39600), (162921600, 36000),
     (183484800, 39600), (194976000, 36000), (215539200, 39600), (226425600, 36000),
     (246988800, 39600), (257875200, 36000), (278438400, 39600), (289324800, 36000),
     (309888000, 39600), (320774400, 36000), (341337600, 39600), (352224000, 36000),
     (372787200, 39600), (386697600, 36000), (404841600, 39600), (415728000, 36000),
     (436291200, 39600), (447177600, 36000), (467740800, 39600), (478627200, 36000),
     (499190400, 39600), (511286400, 36000), (530035200, 39600), (542736000, 36000),
     (562089600, 39600), (574790400, 36000), (594144000, 39600), (606240000, 36000),
     (625593600, 39600), (636480000, 36000), (657043200, 39600), (667929600, 36000),
     (688492800, 39600), (699379200, 36000), (719942400, 39600), (731433600, 36000),
     (751996800, 39600), (762883200, 36000), (783446400, 39600), (794332800, 36000),
     (814896000, 39600), (828201600, 36000), (846345600, 39600), (859651200, 36000),
     (877795200, 39600), (891100800, 36000), (909244800, 39600), (922550400, 36000),
     (941299200, 39600), (954000000, 36000), (967305600, 39600), (985449600, 36000),
     (1004198400, 39600), (1017504000, 36000), (1035648000, 39600), (1048953600, 36000),
     (1067097600, 39600), (1080403200, 36000), (1099152000, 39600), (1111852800, 36000),
     (1130601600, 39600), (1143907200, 36000), (1162051200, 39600), (1174752000, 36000),
     (1193500800, 39600)]
    (yearlyChanges 2008
      [⟨4, 1, 10800, 39600, 36000⟩, ⟨10, 1, 7200, 36000, 39600⟩])

/-- The zone of Troll. -/
def troll : ZoneTable :=
  ofRecord "Antarctica/Troll" 0
    []
    (yearlyChanges 2005
      [⟨3, 25, 3600, 0, 7200⟩, ⟨10, 25, 10800, 7200, 0⟩])

/-- The zone of Apia. -/
def apia : ZoneTable :=
  ofRecord "Pacific/Apia" (-39600)
    [(1285498800, -36000), (1301752800, -39600), (1316872800, -36000), (1325239200, 50400),
     (1333202400, 46800), (1348927200, 50400), (1365256800, 46800), (1380376800, 50400),
     (1396706400, 46800), (1411826400, 50400), (1428156000, 46800), (1443276000, 50400),
     (1459605600, 46800), (1474725600, 50400), (1491055200, 46800), (1506175200, 50400),
     (1522504800, 46800), (1538229600, 50400), (1554559200, 46800), (1569679200, 50400),
     (1586008800, 46800), (1601128800, 50400), (1617458400, 46800)]
    []

/-- The zone of Kwajalein. -/
def kwajalein : ZoneTable :=
  ofRecord "Pacific/Kwajalein" 39600
    [(-7988400, -43200), (745934400, 43200)]
    []

end CronSchedule.ZoneTable
