import ForeignLayer.Calendar.Zone.Rules.Europe
import ForeignLayer.Calendar.Zone.Rules.NorthAmerica
import ForeignLayer.Calendar.Zone.Rules.Pacific
import ForeignLayer.Calendar.Zone.Rules.SouthAmerica

/-!
# Time zones of Australia, the Pacific and Antarctica

The histories of the zones, from the public record of time zones.
-/

namespace ForeignLayer.Calendar.Zones

/-- The names and the histories of the zones. -/
def pacific : List (String × History) := [
  ("Antarctica/Casey", [
    ⟨0, .fixed 0, some ⟨1969, 1, .on 1, .wall 0⟩⟩,
    ⟨28800, .fixed 0, some ⟨2009, 10, .on 18, .wall 7200⟩⟩,
    ⟨39600, .fixed 0, some ⟨2010, 3, .on 5, .wall 7200⟩⟩,
    ⟨28800, .fixed 0, some ⟨2011, 10, .on 28, .wall 7200⟩⟩,
    ⟨39600, .fixed 0, some ⟨2012, 2, .on 21, .universal 61200⟩⟩,
    ⟨28800, .fixed 0, some ⟨2016, 10, .on 22, .wall 0⟩⟩,
    ⟨39600, .fixed 0, some ⟨2018, 3, .on 11, .wall 14400⟩⟩,
    ⟨28800, .fixed 0, some ⟨2018, 10, .on 7, .wall 14400⟩⟩,
    ⟨39600, .fixed 0, some ⟨2019, 3, .on 17, .wall 10800⟩⟩,
    ⟨28800, .fixed 0, some ⟨2019, 10, .on 4, .wall 10800⟩⟩,
    ⟨39600, .fixed 0, some ⟨2020, 3, .on 8, .wall 10800⟩⟩,
    ⟨28800, .fixed 0, some ⟨2020, 10, .on 4, .wall 60⟩⟩,
    ⟨39600, .fixed 0, some ⟨2021, 3, .on 14, .wall 0⟩⟩,
    ⟨28800, .fixed 0, some ⟨2021, 10, .on 3, .wall 60⟩⟩,
    ⟨39600, .fixed 0, some ⟨2022, 3, .on 13, .wall 0⟩⟩,
    ⟨28800, .fixed 0, some ⟨2022, 10, .on 2, .wall 60⟩⟩,
    ⟨39600, .fixed 0, some ⟨2023, 3, .on 9, .wall 10800⟩⟩, ⟨28800, .fixed 0, none⟩]),
  ("Antarctica/Davis", [
    ⟨0, .fixed 0, some ⟨1957, 1, .on 13, .wall 0⟩⟩,
    ⟨25200, .fixed 0, some ⟨1964, 11, .on 1, .wall 0⟩⟩,
    ⟨0, .fixed 0, some ⟨1969, 2, .on 1, .wall 0⟩⟩,
    ⟨25200, .fixed 0, some ⟨2009, 10, .on 18, .wall 7200⟩⟩,
    ⟨18000, .fixed 0, some ⟨2010, 3, .on 10, .universal 72000⟩⟩,
    ⟨25200, .fixed 0, some ⟨2011, 10, .on 28, .wall 7200⟩⟩,
    ⟨18000, .fixed 0, some ⟨2012, 2, .on 21, .universal 72000⟩⟩, ⟨25200, .fixed 0, none⟩]),
  ("Antarctica/Macquarie", [
    ⟨0, .fixed 0, some ⟨1899, 11, .on 1, .wall 0⟩⟩,
    ⟨36000, .fixed 0, some ⟨1916, 10, .on 1, .wall 7200⟩⟩,
    ⟨36000, .fixed 3600, some ⟨1917, 2, .on 1, .wall 0⟩⟩,
    ⟨36000, .rules Rules.australia, some ⟨1919, 4, .on 1, .standard 0⟩⟩,
    ⟨0, .fixed 0, some ⟨1948, 3, .on 25, .wall 0⟩⟩,
    ⟨36000, .rules Rules.australia, some ⟨1967, 1, .on 1, .wall 0⟩⟩,
    ⟨36000, .rules Rules.tasmania, some ⟨2010, 1, .on 1, .wall 0⟩⟩,
    ⟨36000, .fixed 3600, some ⟨2011, 1, .on 1, .wall 0⟩⟩, ⟨36000, .rules Rules.tasmania, none⟩]),
  ("Antarctica/Mawson", [
    ⟨0, .fixed 0, some ⟨1954, 2, .on 13, .wall 0⟩⟩,
    ⟨21600, .fixed 0, some ⟨2009, 10, .on 18, .wall 7200⟩⟩, ⟨18000, .fixed 0, none⟩]),
  ("Antarctica/Palmer", [
    ⟨0, .fixed 0, some ⟨1965, 1, .on 1, .wall 0⟩⟩,
    ⟨-14400, .rules Rules.argentina, some ⟨1969, 10, .on 5, .wall 0⟩⟩,
    ⟨-10800, .rules Rules.argentina, some ⟨1982, 5, .on 1, .wall 0⟩⟩,
    ⟨-14400, .rules Rules.chile, some ⟨2016, 12, .on 4, .wall 0⟩⟩, ⟨-10800, .fixed 0, none⟩]),
  ("Antarctica/Rothera", [
    ⟨0, .fixed 0, some ⟨1976, 12, .on 1, .wall 0⟩⟩, ⟨-10800, .fixed 0, none⟩]),
  ("Antarctica/Troll", [
    ⟨0, .fixed 0, some ⟨2005, 2, .on 12, .wall 0⟩⟩, ⟨0, .rules Rules.troll, none⟩]),
  ("Antarctica/Vostok", [
    ⟨0, .fixed 0, some ⟨1957, 12, .on 16, .wall 0⟩⟩,
    ⟨25200, .fixed 0, some ⟨1994, 2, .on 1, .wall 0⟩⟩,
    ⟨0, .fixed 0, some ⟨1994, 11, .on 1, .wall 0⟩⟩,
    ⟨25200, .fixed 0, some ⟨2023, 12, .on 18, .wall 7200⟩⟩, ⟨18000, .fixed 0, none⟩]),
  ("Australia/Adelaide", [
    ⟨33260, .fixed 0, some ⟨1895, 2, .on 1, .wall 0⟩⟩,
    ⟨32400, .fixed 0, some ⟨1899, 5, .on 1, .wall 0⟩⟩,
    ⟨34200, .rules Rules.australia, some ⟨1971, 1, .on 1, .wall 0⟩⟩,
    ⟨34200, .rules Rules.southAustralia, none⟩]),
  ("Australia/Brisbane", [
    ⟨36728, .fixed 0, some ⟨1895, 1, .on 1, .wall 0⟩⟩,
    ⟨36000, .rules Rules.australia, some ⟨1971, 1, .on 1, .wall 0⟩⟩,
    ⟨36000, .rules Rules.queensland, none⟩]),
  ("Australia/Broken_Hill", [
    ⟨33948, .fixed 0, some ⟨1895, 2, .on 1, .wall 0⟩⟩,
    ⟨36000, .fixed 0, some ⟨1896, 8, .on 23, .wall 0⟩⟩,
    ⟨32400, .fixed 0, some ⟨1899, 5, .on 1, .wall 0⟩⟩,
    ⟨34200, .rules Rules.australia, some ⟨1971, 1, .on 1, .wall 0⟩⟩,
    ⟨34200, .rules Rules.newSouthWales, some ⟨2000, 1, .on 1, .wall 0⟩⟩,
    ⟨34200, .rules Rules.southAustralia, none⟩]),
  ("Australia/Darwin", [
    ⟨31400, .fixed 0, some ⟨1895, 2, .on 1, .wall 0⟩⟩,
    ⟨32400, .fixed 0, some ⟨1899, 5, .on 1, .wall 0⟩⟩, ⟨34200, .rules Rules.australia, none⟩]),
  ("Australia/Eucla", [
    ⟨30928, .fixed 0, some ⟨1895, 12, .on 1, .wall 0⟩⟩,
    ⟨31500, .rules Rules.australia, some ⟨1943, 7, .on 1, .wall 0⟩⟩,
    ⟨31500, .rules Rules.westAustralia, none⟩]),
  ("Australia/Hobart", [
    ⟨35356, .fixed 0, some ⟨1895, 9, .on 1, .wall 0⟩⟩,
    ⟨36000, .rules Rules.tasmania, some ⟨1919, 10, .on 24, .wall 0⟩⟩,
    ⟨36000, .rules Rules.australia, some ⟨1967, 1, .on 1, .wall 0⟩⟩,
    ⟨36000, .rules Rules.tasmania, none⟩]),
  ("Australia/Lindeman", [
    ⟨35756, .fixed 0, some ⟨1895, 1, .on 1, .wall 0⟩⟩,
    ⟨36000, .rules Rules.australia, some ⟨1971, 1, .on 1, .wall 0⟩⟩,
    ⟨36000, .rules Rules.queensland, some ⟨1992, 7, .on 1, .wall 0⟩⟩,
    ⟨36000, .rules Rules.holidayIslands, none⟩]),
  ("Australia/Lord_Howe", [
    ⟨38180, .fixed 0, some ⟨1895, 2, .on 1, .wall 0⟩⟩,
    ⟨36000, .fixed 0, some ⟨1981, 3, .on 1, .wall 0⟩⟩,
    ⟨37800, .rules Rules.lordHowe, some ⟨1985, 7, .on 1, .wall 0⟩⟩,
    ⟨37800, .rules Rules.lordHowe, none⟩]),
  ("Australia/Melbourne", [
    ⟨34792, .fixed 0, some ⟨1895, 2, .on 1, .wall 0⟩⟩,
    ⟨36000, .rules Rules.australia, some ⟨1971, 1, .on 1, .wall 0⟩⟩,
    ⟨36000, .rules Rules.victoria, none⟩]),
  ("Australia/Perth", [
    ⟨27804, .fixed 0, some ⟨1895, 12, .on 1, .wall 0⟩⟩,
    ⟨28800, .rules Rules.australia, some ⟨1943, 7, .on 1, .wall 0⟩⟩,
    ⟨28800, .rules Rules.westAustralia, none⟩]),
  ("Australia/Sydney", [
    ⟨36292, .fixed 0, some ⟨1895, 2, .on 1, .wall 0⟩⟩,
    ⟨36000, .rules Rules.australia, some ⟨1971, 1, .on 1, .wall 0⟩⟩,
    ⟨36000, .rules Rules.newSouthWales, none⟩]),
  ("Pacific/Apia", [
    ⟨45184, .fixed 0, some ⟨1892, 7, .on 5, .wall 0⟩⟩,
    ⟨-41216, .fixed 0, some ⟨1911, 1, .on 1, .wall 0⟩⟩,
    ⟨-41400, .fixed 0, some ⟨1950, 1, .on 1, .wall 0⟩⟩,
    ⟨-39600, .rules Rules.samoa, some ⟨2011, 12, .on 29, .wall 86400⟩⟩,
    ⟨46800, .rules Rules.samoa, none⟩]),
  ("Pacific/Auckland", [
    ⟨41944, .fixed 0, some ⟨1868, 11, .on 2, .wall 0⟩⟩,
    ⟨41400, .rules Rules.newZealand, some ⟨1946, 1, .on 1, .wall 0⟩⟩,
    ⟨43200, .rules Rules.newZealand, none⟩]),
  ("Pacific/Bougainville", [
    ⟨37336, .fixed 0, some ⟨1880, 1, .on 1, .wall 0⟩⟩,
    ⟨35312, .fixed 0, some ⟨1895, 1, .on 1, .wall 0⟩⟩,
    ⟨36000, .fixed 0, some ⟨1942, 7, .on 1, .wall 0⟩⟩,
    ⟨32400, .fixed 0, some ⟨1945, 8, .on 21, .wall 0⟩⟩,
    ⟨36000, .fixed 0, some ⟨2014, 12, .on 28, .wall 7200⟩⟩, ⟨39600, .fixed 0, none⟩]),
  ("Pacific/Chatham", [
    ⟨44028, .fixed 0, some ⟨1868, 11, .on 2, .wall 0⟩⟩,
    ⟨44100, .fixed 0, some ⟨1946, 1, .on 1, .wall 0⟩⟩, ⟨45900, .rules Rules.chatham, none⟩]),
  ("Pacific/Easter", [
    ⟨-26248, .fixed 0, some ⟨1890, 1, .on 1, .wall 0⟩⟩,
    ⟨-26248, .fixed 0, some ⟨1932, 9, .on 1, .wall 0⟩⟩,
    ⟨-25200, .rules Rules.chile, some ⟨1982, 3, .on 14, .universal 10800⟩⟩,
    ⟨-21600, .rules Rules.chile, none⟩]),
  ("Pacific/Efate", [
    ⟨40396, .fixed 0, some ⟨1912, 1, .on 13, .wall 0⟩⟩, ⟨39600, .rules Rules.vanuatu, none⟩]),
  ("Pacific/Fakaofo", [
    ⟨-41096, .fixed 0, some ⟨1901, 1, .on 1, .wall 0⟩⟩,
    ⟨-39600, .fixed 0, some ⟨2011, 12, .on 30, .wall 0⟩⟩, ⟨46800, .fixed 0, none⟩]),
  ("Pacific/Fiji", [
    ⟨42944, .fixed 0, some ⟨1915, 10, .on 26, .wall 0⟩⟩, ⟨43200, .rules Rules.fiji, none⟩]),
  ("Pacific/Galapagos", [
    ⟨-21504, .fixed 0, some ⟨1931, 1, .on 1, .wall 0⟩⟩,
    ⟨-18000, .fixed 0, some ⟨1986, 1, .on 1, .wall 0⟩⟩, ⟨-21600, .rules Rules.ecuador, none⟩]),
  ("Pacific/Gambier", [
    ⟨-32388, .fixed 0, some ⟨1912, 10, .on 1, .wall 0⟩⟩, ⟨-32400, .fixed 0, none⟩]),
  ("Pacific/Guadalcanal", [
    ⟨38388, .fixed 0, some ⟨1912, 10, .on 1, .wall 0⟩⟩, ⟨39600, .fixed 0, none⟩]),
  ("Pacific/Guam", [
    ⟨-51660, .fixed 0, some ⟨1844, 12, .on 31, .wall 0⟩⟩,
    ⟨34740, .fixed 0, some ⟨1901, 1, .on 1, .wall 0⟩⟩,
    ⟨36000, .fixed 0, some ⟨1941, 12, .on 10, .wall 0⟩⟩,
    ⟨32400, .fixed 0, some ⟨1944, 7, .on 31, .wall 0⟩⟩,
    ⟨36000, .rules Rules.guam, some ⟨2000, 12, .on 23, .wall 0⟩⟩, ⟨36000, .fixed 0, none⟩]),
  ("Pacific/Honolulu", [
    ⟨-37886, .fixed 0, some ⟨1896, 1, .on 13, .wall 43200⟩⟩,
    ⟨-37800, .fixed 0, some ⟨1933, 4, .on 30, .wall 7200⟩⟩,
    ⟨-37800, .fixed 3600, some ⟨1933, 5, .on 21, .wall 43200⟩⟩,
    ⟨-37800, .rules Rules.unitedStates, some ⟨1947, 6, .on 8, .wall 7200⟩⟩,
    ⟨-36000, .fixed 0, none⟩]),
  ("Pacific/Kanton", [
    ⟨0, .fixed 0, some ⟨1937, 8, .on 31, .wall 0⟩⟩,
    ⟨-43200, .fixed 0, some ⟨1979, 10, .on 1, .wall 0⟩⟩,
    ⟨-39600, .fixed 0, some ⟨1994, 12, .on 31, .wall 0⟩⟩, ⟨46800, .fixed 0, none⟩]),
  ("Pacific/Kiritimati", [
    ⟨-37760, .fixed 0, some ⟨1901, 1, .on 1, .wall 0⟩⟩,
    ⟨-38400, .fixed 0, some ⟨1979, 10, .on 1, .wall 0⟩⟩,
    ⟨-36000, .fixed 0, some ⟨1994, 12, .on 31, .wall 0⟩⟩, ⟨50400, .fixed 0, none⟩]),
  ("Pacific/Kosrae", [
    ⟨-47284, .fixed 0, some ⟨1844, 12, .on 31, .wall 0⟩⟩,
    ⟨39116, .fixed 0, some ⟨1901, 1, .on 1, .wall 0⟩⟩,
    ⟨39600, .fixed 0, some ⟨1914, 10, .on 1, .wall 0⟩⟩,
    ⟨32400, .fixed 0, some ⟨1919, 2, .on 1, .wall 0⟩⟩,
    ⟨39600, .fixed 0, some ⟨1937, 1, .on 1, .wall 0⟩⟩,
    ⟨36000, .fixed 0, some ⟨1941, 4, .on 1, .wall 0⟩⟩,
    ⟨32400, .fixed 0, some ⟨1945, 8, .on 1, .wall 0⟩⟩,
    ⟨39600, .fixed 0, some ⟨1969, 10, .on 1, .wall 0⟩⟩,
    ⟨43200, .fixed 0, some ⟨1999, 1, .on 1, .wall 0⟩⟩, ⟨39600, .fixed 0, none⟩]),
  ("Pacific/Kwajalein", [
    ⟨40160, .fixed 0, some ⟨1901, 1, .on 1, .wall 0⟩⟩,
    ⟨39600, .fixed 0, some ⟨1937, 1, .on 1, .wall 0⟩⟩,
    ⟨36000, .fixed 0, some ⟨1941, 4, .on 1, .wall 0⟩⟩,
    ⟨32400, .fixed 0, some ⟨1944, 2, .on 6, .wall 0⟩⟩,
    ⟨39600, .fixed 0, some ⟨1969, 10, .on 1, .wall 0⟩⟩,
    ⟨-43200, .fixed 0, some ⟨1993, 8, .on 20, .wall 86400⟩⟩, ⟨43200, .fixed 0, none⟩]),
  ("Pacific/Marquesas", [
    ⟨-33480, .fixed 0, some ⟨1912, 10, .on 1, .wall 0⟩⟩, ⟨-34200, .fixed 0, none⟩]),
  ("Pacific/Nauru", [
    ⟨40060, .fixed 0, some ⟨1921, 1, .on 15, .wall 0⟩⟩,
    ⟨41400, .fixed 0, some ⟨1942, 8, .on 29, .wall 0⟩⟩,
    ⟨32400, .fixed 0, some ⟨1945, 9, .on 8, .wall 0⟩⟩,
    ⟨41400, .fixed 0, some ⟨1979, 2, .on 10, .wall 7200⟩⟩, ⟨43200, .fixed 0, none⟩]),
  ("Pacific/Niue", [
    ⟨-40780, .fixed 0, some ⟨1952, 10, .on 16, .wall 0⟩⟩,
    ⟨-40800, .fixed 0, some ⟨1964, 7, .on 1, .wall 0⟩⟩, ⟨-39600, .fixed 0, none⟩]),
  ("Pacific/Norfolk", [
    ⟨40312, .fixed 0, some ⟨1901, 1, .on 1, .wall 0⟩⟩,
    ⟨40320, .fixed 0, some ⟨1951, 1, .on 1, .wall 0⟩⟩,
    ⟨41400, .fixed 0, some ⟨1974, 10, .on 27, .standard 7200⟩⟩,
    ⟨41400, .fixed 3600, some ⟨1975, 3, .on 2, .standard 7200⟩⟩,
    ⟨41400, .fixed 0, some ⟨2015, 10, .on 4, .standard 7200⟩⟩,
    ⟨39600, .fixed 0, some ⟨2019, 7, .on 1, .wall 0⟩⟩, ⟨39600, .rules Rules.newSouthWales, none⟩]),
  ("Pacific/Noumea", [
    ⟨39948, .fixed 0, some ⟨1912, 1, .on 13, .wall 0⟩⟩, ⟨39600, .rules Rules.newCaledonia, none⟩]),
  ("Pacific/Pago_Pago", [
    ⟨45432, .fixed 0, some ⟨1892, 7, .on 5, .wall 0⟩⟩,
    ⟨-40968, .fixed 0, some ⟨1911, 1, .on 1, .wall 0⟩⟩, ⟨-39600, .fixed 0, none⟩]),
  ("Pacific/Palau", [
    ⟨-54124, .fixed 0, some ⟨1844, 12, .on 31, .wall 0⟩⟩,
    ⟨32276, .fixed 0, some ⟨1901, 1, .on 1, .wall 0⟩⟩, ⟨32400, .fixed 0, none⟩]),
  ("Pacific/Pitcairn", [
    ⟨-31220, .fixed 0, some ⟨1901, 1, .on 1, .wall 0⟩⟩,
    ⟨-30600, .fixed 0, some ⟨1998, 4, .on 27, .wall 0⟩⟩, ⟨-28800, .fixed 0, none⟩]),
  ("Pacific/Port_Moresby", [
    ⟨35320, .fixed 0, some ⟨1880, 1, .on 1, .wall 0⟩⟩,
    ⟨35312, .fixed 0, some ⟨1895, 1, .on 1, .wall 0⟩⟩, ⟨36000, .fixed 0, none⟩]),
  ("Pacific/Rarotonga", [
    ⟨48056, .fixed 0, some ⟨1899, 12, .on 26, .wall 0⟩⟩,
    ⟨-38344, .fixed 0, some ⟨1952, 10, .on 16, .wall 0⟩⟩,
    ⟨-37800, .fixed 0, some ⟨1978, 11, .on 12, .wall 0⟩⟩,
    ⟨-36000, .rules Rules.cookIslands, none⟩]),
  ("Pacific/Tahiti", [
    ⟨-35896, .fixed 0, some ⟨1912, 10, .on 1, .wall 0⟩⟩, ⟨-36000, .fixed 0, none⟩]),
  ("Pacific/Tarawa", [
    ⟨41524, .fixed 0, some ⟨1901, 1, .on 1, .wall 0⟩⟩, ⟨43200, .fixed 0, none⟩]),
  ("Pacific/Tongatapu", [
    ⟨44352, .fixed 0, some ⟨1945, 9, .on 10, .wall 0⟩⟩,
    ⟨44400, .fixed 0, some ⟨1961, 1, .on 1, .wall 0⟩⟩,
    ⟨46800, .fixed 0, some ⟨1999, 1, .on 1, .wall 0⟩⟩, ⟨46800, .rules Rules.tonga, none⟩])]

end ForeignLayer.Calendar.Zones
