import ForeignLayer.Calendar.Zone.Rules.Europe
import ForeignLayer.Calendar.Zone.Rules.NorthAmerica

/-!
# Time zones of North America

The histories of the zones, from the public record of time zones.
-/

namespace ForeignLayer.Calendar.Zones

/-- The names and the histories of the zones. -/
def northAmerica : List (String × History) := [
  ("America/Adak", [
    ⟨44002, .fixed 0, some ⟨1867, 10, .on 19, .wall 45875⟩⟩,
    ⟨-42398, .fixed 0, some ⟨1900, 8, .on 20, .wall 43200⟩⟩,
    ⟨-39600, .fixed 0, some ⟨1942, 1, .on 1, .wall 0⟩⟩,
    ⟨-39600, .rules Rules.unitedStates, some ⟨1946, 1, .on 1, .wall 0⟩⟩,
    ⟨-39600, .fixed 0, some ⟨1967, 4, .on 1, .wall 0⟩⟩,
    ⟨-39600, .fixed 0, some ⟨1969, 1, .on 1, .wall 0⟩⟩,
    ⟨-39600, .rules Rules.unitedStates, some ⟨1983, 10, .on 30, .wall 7200⟩⟩,
    ⟨-36000, .rules Rules.unitedStates, some ⟨1983, 11, .on 30, .wall 0⟩⟩,
    ⟨-36000, .rules Rules.unitedStates, none⟩]),
  ("America/Anchorage", [
    ⟨50424, .fixed 0, some ⟨1867, 10, .on 19, .wall 52297⟩⟩,
    ⟨-35976, .fixed 0, some ⟨1900, 8, .on 20, .wall 43200⟩⟩,
    ⟨-36000, .fixed 0, some ⟨1942, 1, .on 1, .wall 0⟩⟩,
    ⟨-36000, .rules Rules.unitedStates, some ⟨1967, 4, .on 1, .wall 0⟩⟩,
    ⟨-36000, .fixed 0, some ⟨1969, 1, .on 1, .wall 0⟩⟩,
    ⟨-36000, .rules Rules.unitedStates, some ⟨1983, 10, .on 30, .wall 7200⟩⟩,
    ⟨-32400, .rules Rules.unitedStates, some ⟨1983, 11, .on 30, .wall 0⟩⟩,
    ⟨-32400, .rules Rules.unitedStates, none⟩]),
  ("America/Bahia_Banderas", [
    ⟨-25260, .fixed 0, some ⟨1922, 1, .on 1, .universal 25200⟩⟩,
    ⟨-25200, .fixed 0, some ⟨1927, 6, .on 10, .wall 0⟩⟩,
    ⟨-21600, .fixed 0, some ⟨1930, 11, .on 15, .wall 0⟩⟩,
    ⟨-25200, .rules Rules.mexico, some ⟨1932, 4, .on 1, .wall 0⟩⟩,
    ⟨-21600, .fixed 0, some ⟨1942, 4, .on 24, .wall 0⟩⟩,
    ⟨-25200, .fixed 0, some ⟨1970, 1, .on 1, .wall 0⟩⟩,
    ⟨-25200, .rules Rules.mexico, some ⟨2010, 4, .on 4, .wall 7200⟩⟩,
    ⟨-21600, .rules Rules.mexico, none⟩]),
  ("America/Barbados", [
    ⟨-14309, .fixed 0, some ⟨1911, 8, .on 28, .wall 0⟩⟩,
    ⟨-14400, .rules Rules.barbados, some ⟨1944, 1, .on 1, .wall 0⟩⟩,
    ⟨-14400, .rules Rules.barbados, some ⟨1945, 1, .on 1, .wall 0⟩⟩,
    ⟨-14400, .rules Rules.barbados, none⟩]),
  ("America/Belize", [
    ⟨-21168, .fixed 0, some ⟨1912, 4, .on 1, .wall 0⟩⟩, ⟨-21600, .rules Rules.belize, none⟩]),
  ("America/Boise", [
    ⟨-27889, .fixed 0, some ⟨1883, 11, .on 18, .universal 72000⟩⟩,
    ⟨-28800, .rules Rules.unitedStates, some ⟨1923, 5, .on 13, .wall 7200⟩⟩,
    ⟨-25200, .rules Rules.unitedStates, some ⟨1974, 1, .on 1, .wall 0⟩⟩,
    ⟨-25200, .fixed 0, some ⟨1974, 2, .on 3, .wall 7200⟩⟩,
    ⟨-25200, .rules Rules.unitedStates, none⟩]),
  ("America/Cambridge_Bay", [
    ⟨0, .fixed 0, some ⟨1920, 1, .on 1, .wall 0⟩⟩,
    ⟨-25200, .rules Rules.northCanada, some ⟨1999, 10, .on 31, .wall 7200⟩⟩,
    ⟨-21600, .rules Rules.canada, some ⟨2000, 10, .on 29, .wall 7200⟩⟩,
    ⟨-18000, .fixed 0, some ⟨2000, 11, .on 5, .wall 0⟩⟩,
    ⟨-21600, .fixed 0, some ⟨2001, 4, .on 1, .wall 10800⟩⟩, ⟨-25200, .rules Rules.canada, none⟩]),
  ("America/Cancun", [
    ⟨-20824, .fixed 0, some ⟨1922, 1, .on 1, .universal 21600⟩⟩,
    ⟨-21600, .fixed 0, some ⟨1981, 12, .on 26, .wall 7200⟩⟩,
    ⟨-18000, .fixed 0, some ⟨1983, 1, .on 4, .wall 0⟩⟩,
    ⟨-21600, .rules Rules.mexico, some ⟨1997, 10, .on 26, .wall 7200⟩⟩,
    ⟨-18000, .rules Rules.mexico, some ⟨1998, 8, .on 2, .wall 7200⟩⟩,
    ⟨-21600, .rules Rules.mexico, some ⟨2015, 2, .on 1, .wall 7200⟩⟩, ⟨-18000, .fixed 0, none⟩]),
  ("America/Chicago", [
    ⟨-21036, .fixed 0, some ⟨1883, 11, .on 18, .universal 64800⟩⟩,
    ⟨-21600, .rules Rules.unitedStates, some ⟨1920, 1, .on 1, .wall 0⟩⟩,
    ⟨-21600, .rules Rules.chicago, some ⟨1936, 3, .on 1, .wall 7200⟩⟩,
    ⟨-18000, .fixed 0, some ⟨1936, 11, .on 15, .wall 7200⟩⟩,
    ⟨-21600, .rules Rules.chicago, some ⟨1942, 1, .on 1, .wall 0⟩⟩,
    ⟨-21600, .rules Rules.unitedStates, some ⟨1946, 1, .on 1, .wall 0⟩⟩,
    ⟨-21600, .rules Rules.chicago, some ⟨1967, 1, .on 1, .wall 0⟩⟩,
    ⟨-21600, .rules Rules.unitedStates, none⟩]),
  ("America/Chihuahua", [
    ⟨-25460, .fixed 0, some ⟨1922, 1, .on 1, .universal 25200⟩⟩,
    ⟨-25200, .fixed 0, some ⟨1927, 6, .on 10, .wall 0⟩⟩,
    ⟨-21600, .fixed 0, some ⟨1930, 11, .on 15, .wall 0⟩⟩,
    ⟨-25200, .rules Rules.mexico, some ⟨1932, 4, .on 1, .wall 0⟩⟩,
    ⟨-21600, .fixed 0, some ⟨1996, 1, .on 1, .wall 0⟩⟩,
    ⟨-21600, .rules Rules.mexico, some ⟨1998, 1, .on 1, .wall 0⟩⟩,
    ⟨-21600, .fixed 0, some ⟨1998, 4, .since 6 1, .wall 10800⟩⟩,
    ⟨-25200, .rules Rules.mexico, some ⟨2022, 10, .on 30, .wall 7200⟩⟩, ⟨-21600, .fixed 0, none⟩]),
  ("America/Ciudad_Juarez", [
    ⟨-25556, .fixed 0, some ⟨1922, 1, .on 1, .universal 25200⟩⟩,
    ⟨-25200, .fixed 0, some ⟨1927, 6, .on 10, .wall 0⟩⟩,
    ⟨-21600, .fixed 0, some ⟨1930, 11, .on 15, .wall 0⟩⟩,
    ⟨-25200, .rules Rules.mexico, some ⟨1932, 4, .on 1, .wall 0⟩⟩,
    ⟨-21600, .fixed 0, some ⟨1996, 1, .on 1, .wall 0⟩⟩,
    ⟨-21600, .rules Rules.mexico, some ⟨1998, 1, .on 1, .wall 0⟩⟩,
    ⟨-21600, .fixed 0, some ⟨1998, 4, .since 6 1, .wall 10800⟩⟩,
    ⟨-25200, .rules Rules.mexico, some ⟨2010, 1, .on 1, .wall 0⟩⟩,
    ⟨-25200, .rules Rules.unitedStates, some ⟨2022, 10, .on 30, .wall 7200⟩⟩,
    ⟨-21600, .fixed 0, some ⟨2022, 11, .on 30, .wall 0⟩⟩,
    ⟨-25200, .rules Rules.unitedStates, none⟩]),
  ("America/Costa_Rica", [
    ⟨-20173, .fixed 0, some ⟨1890, 1, .on 1, .wall 0⟩⟩,
    ⟨-20173, .fixed 0, some ⟨1921, 1, .on 15, .wall 0⟩⟩, ⟨-21600, .rules Rules.costaRica, none⟩]),
  ("America/Danmarkshavn", [
    ⟨-4480, .fixed 0, some ⟨1916, 7, .on 28, .wall 0⟩⟩,
    ⟨-10800, .fixed 0, some ⟨1980, 4, .on 6, .wall 7200⟩⟩,
    ⟨-10800, .rules Rules.europe, some ⟨1996, 1, .on 1, .wall 0⟩⟩, ⟨0, .fixed 0, none⟩]),
  ("America/Dawson", [
    ⟨-33460, .fixed 0, some ⟨1900, 8, .on 20, .wall 0⟩⟩,
    ⟨-32400, .rules Rules.northCanada, some ⟨1965, 1, .on 1, .wall 0⟩⟩,
    ⟨-32400, .rules Rules.yukon, some ⟨1973, 10, .on 28, .wall 0⟩⟩,
    ⟨-28800, .fixed 0, some ⟨1980, 1, .on 1, .wall 0⟩⟩,
    ⟨-28800, .rules Rules.canada, some ⟨2020, 11, .on 1, .wall 0⟩⟩, ⟨-25200, .fixed 0, none⟩]),
  ("America/Dawson_Creek", [
    ⟨-28856, .fixed 0, some ⟨1884, 1, .on 1, .wall 0⟩⟩,
    ⟨-28800, .rules Rules.canada, some ⟨1947, 1, .on 1, .wall 0⟩⟩,
    ⟨-28800, .rules Rules.vancouver, some ⟨1972, 8, .on 30, .wall 7200⟩⟩,
    ⟨-25200, .fixed 0, none⟩]),
  ("America/Denver", [
    ⟨-25196, .fixed 0, some ⟨1883, 11, .on 18, .universal 68400⟩⟩,
    ⟨-25200, .rules Rules.unitedStates, some ⟨1920, 1, .on 1, .wall 0⟩⟩,
    ⟨-25200, .rules Rules.denver, some ⟨1942, 1, .on 1, .wall 0⟩⟩,
    ⟨-25200, .rules Rules.unitedStates, some ⟨1946, 1, .on 1, .wall 0⟩⟩,
    ⟨-25200, .rules Rules.denver, some ⟨1967, 1, .on 1, .wall 0⟩⟩,
    ⟨-25200, .rules Rules.unitedStates, none⟩]),
  ("America/Detroit", [
    ⟨-19931, .fixed 0, some ⟨1905, 1, .on 1, .wall 0⟩⟩,
    ⟨-21600, .fixed 0, some ⟨1915, 5, .on 15, .wall 7200⟩⟩,
    ⟨-18000, .fixed 0, some ⟨1942, 1, .on 1, .wall 0⟩⟩,
    ⟨-18000, .rules Rules.unitedStates, some ⟨1946, 1, .on 1, .wall 0⟩⟩,
    ⟨-18000, .rules Rules.detroit, some ⟨1967, 6, .on 14, .wall 60⟩⟩,
    ⟨-18000, .rules Rules.unitedStates, some ⟨1969, 1, .on 1, .wall 0⟩⟩,
    ⟨-18000, .fixed 0, some ⟨1973, 1, .on 1, .wall 0⟩⟩,
    ⟨-18000, .rules Rules.unitedStates, some ⟨1975, 1, .on 1, .wall 0⟩⟩,
    ⟨-18000, .fixed 0, some ⟨1975, 4, .on 27, .wall 7200⟩⟩,
    ⟨-18000, .rules Rules.unitedStates, none⟩]),
  ("America/Edmonton", [
    ⟨-27232, .fixed 0, some ⟨1906, 9, .on 1, .wall 0⟩⟩,
    ⟨-25200, .rules Rules.edmonton, some ⟨1987, 1, .on 1, .wall 0⟩⟩,
    ⟨-25200, .rules Rules.canada, none⟩]),
  ("America/El_Salvador", [
    ⟨-21408, .fixed 0, some ⟨1921, 1, .on 1, .wall 0⟩⟩, ⟨-21600, .rules Rules.elSalvador, none⟩]),
  ("America/Fort_Nelson", [
    ⟨-29447, .fixed 0, some ⟨1884, 1, .on 1, .wall 0⟩⟩,
    ⟨-28800, .rules Rules.vancouver, some ⟨1946, 1, .on 1, .wall 0⟩⟩,
    ⟨-28800, .fixed 0, some ⟨1947, 1, .on 1, .wall 0⟩⟩,
    ⟨-28800, .rules Rules.vancouver, some ⟨1987, 1, .on 1, .wall 0⟩⟩,
    ⟨-28800, .rules Rules.canada, some ⟨2015, 3, .on 8, .wall 7200⟩⟩, ⟨-25200, .fixed 0, none⟩]),
  ("America/Glace_Bay", [
    ⟨-14388, .fixed 0, some ⟨1902, 6, .on 15, .wall 0⟩⟩,
    ⟨-14400, .rules Rules.canada, some ⟨1953, 1, .on 1, .wall 0⟩⟩,
    ⟨-14400, .rules Rules.halifax, some ⟨1954, 1, .on 1, .wall 0⟩⟩,
    ⟨-14400, .fixed 0, some ⟨1972, 1, .on 1, .wall 0⟩⟩,
    ⟨-14400, .rules Rules.halifax, some ⟨1974, 1, .on 1, .wall 0⟩⟩,
    ⟨-14400, .rules Rules.canada, none⟩]),
  ("America/Goose_Bay", [
    ⟨-14500, .fixed 0, some ⟨1884, 1, .on 1, .wall 0⟩⟩,
    ⟨-12652, .fixed 0, some ⟨1918, 1, .on 1, .wall 0⟩⟩,
    ⟨-12652, .rules Rules.canada, some ⟨1919, 1, .on 1, .wall 0⟩⟩,
    ⟨-12652, .fixed 0, some ⟨1935, 3, .on 30, .wall 0⟩⟩,
    ⟨-12600, .fixed 0, some ⟨1936, 1, .on 1, .wall 0⟩⟩,
    ⟨-12600, .rules Rules.stJohns, some ⟨1942, 5, .on 11, .wall 0⟩⟩,
    ⟨-12600, .rules Rules.canada, some ⟨1946, 1, .on 1, .wall 0⟩⟩,
    ⟨-12600, .rules Rules.stJohns, some ⟨1966, 3, .on 15, .wall 7200⟩⟩,
    ⟨-14400, .rules Rules.stJohns, some ⟨2011, 11, .on 1, .wall 0⟩⟩,
    ⟨-14400, .rules Rules.canada, none⟩]),
  ("America/Grand_Turk", [
    ⟨-17072, .fixed 0, some ⟨1890, 1, .on 1, .wall 0⟩⟩,
    ⟨-18430, .fixed 0, some ⟨1912, 2, .on 1, .wall 0⟩⟩,
    ⟨-18000, .fixed 0, some ⟨1979, 1, .on 1, .wall 0⟩⟩,
    ⟨-18000, .rules Rules.unitedStates, some ⟨2015, 3, .on 8, .wall 7200⟩⟩,
    ⟨-14400, .fixed 0, some ⟨2018, 3, .on 11, .wall 10800⟩⟩,
    ⟨-18000, .rules Rules.unitedStates, none⟩]),
  ("America/Guatemala", [
    ⟨-21724, .fixed 0, some ⟨1918, 10, .on 5, .wall 0⟩⟩, ⟨-21600, .rules Rules.guatemala, none⟩]),
  ("America/Halifax", [
    ⟨-15264, .fixed 0, some ⟨1902, 6, .on 15, .wall 0⟩⟩,
    ⟨-14400, .rules Rules.halifax, some ⟨1918, 1, .on 1, .wall 0⟩⟩,
    ⟨-14400, .rules Rules.canada, some ⟨1919, 1, .on 1, .wall 0⟩⟩,
    ⟨-14400, .rules Rules.halifax, some ⟨1942, 2, .on 9, .standard 7200⟩⟩,
    ⟨-14400, .rules Rules.canada, some ⟨1946, 1, .on 1, .wall 0⟩⟩,
    ⟨-14400, .rules Rules.halifax, some ⟨1974, 1, .on 1, .wall 0⟩⟩,
    ⟨-14400, .rules Rules.canada, none⟩]),
  ("America/Havana", [
    ⟨-19768, .fixed 0, some ⟨1890, 1, .on 1, .wall 0⟩⟩,
    ⟨-19776, .fixed 0, some ⟨1925, 7, .on 19, .wall 43200⟩⟩, ⟨-18000, .rules Rules.cuba, none⟩]),
  ("America/Hermosillo", [
    ⟨-26632, .fixed 0, some ⟨1922, 1, .on 1, .universal 25200⟩⟩,
    ⟨-25200, .fixed 0, some ⟨1927, 6, .on 10, .wall 0⟩⟩,
    ⟨-21600, .fixed 0, some ⟨1930, 11, .on 15, .wall 0⟩⟩,
    ⟨-25200, .rules Rules.mexico, some ⟨1932, 4, .on 1, .wall 0⟩⟩,
    ⟨-21600, .fixed 0, some ⟨1942, 4, .on 24, .wall 0⟩⟩,
    ⟨-25200, .fixed 0, some ⟨1996, 1, .on 1, .wall 0⟩⟩,
    ⟨-25200, .rules Rules.mexico, some ⟨1999, 1, .on 1, .wall 0⟩⟩, ⟨-25200, .fixed 0, none⟩]),
  ("America/Indiana/Indianapolis", [
    ⟨-20678, .fixed 0, some ⟨1883, 11, .on 18, .universal 64800⟩⟩,
    ⟨-21600, .rules Rules.unitedStates, some ⟨1920, 1, .on 1, .wall 0⟩⟩,
    ⟨-21600, .rules Rules.indianapolis, some ⟨1942, 1, .on 1, .wall 0⟩⟩,
    ⟨-21600, .rules Rules.unitedStates, some ⟨1946, 1, .on 1, .wall 0⟩⟩,
    ⟨-21600, .rules Rules.indianapolis, some ⟨1955, 4, .on 24, .wall 7200⟩⟩,
    ⟨-18000, .fixed 0, some ⟨1957, 9, .on 29, .wall 7200⟩⟩,
    ⟨-21600, .fixed 0, some ⟨1958, 4, .on 27, .wall 7200⟩⟩,
    ⟨-18000, .fixed 0, some ⟨1969, 1, .on 1, .wall 0⟩⟩,
    ⟨-18000, .rules Rules.unitedStates, some ⟨1971, 1, .on 1, .wall 0⟩⟩,
    ⟨-18000, .fixed 0, some ⟨2006, 1, .on 1, .wall 0⟩⟩, ⟨-18000, .rules Rules.unitedStates, none⟩]),
  ("America/Indiana/Knox", [
    ⟨-20790, .fixed 0, some ⟨1883, 11, .on 18, .universal 64800⟩⟩,
    ⟨-21600, .rules Rules.unitedStates, some ⟨1947, 1, .on 1, .wall 0⟩⟩,
    ⟨-21600, .rules Rules.starke, some ⟨1962, 4, .on 29, .wall 7200⟩⟩,
    ⟨-18000, .fixed 0, some ⟨1963, 10, .on 27, .wall 7200⟩⟩,
    ⟨-21600, .rules Rules.unitedStates, some ⟨1991, 10, .on 27, .wall 7200⟩⟩,
    ⟨-18000, .fixed 0, some ⟨2006, 4, .on 2, .wall 7200⟩⟩,
    ⟨-21600, .rules Rules.unitedStates, none⟩]),
  ("America/Indiana/Marengo", [
    ⟨-20723, .fixed 0, some ⟨1883, 11, .on 18, .universal 64800⟩⟩,
    ⟨-21600, .rules Rules.unitedStates, some ⟨1951, 1, .on 1, .wall 0⟩⟩,
    ⟨-21600, .rules Rules.marengo, some ⟨1961, 4, .on 30, .wall 7200⟩⟩,
    ⟨-18000, .fixed 0, some ⟨1969, 1, .on 1, .wall 0⟩⟩,
    ⟨-18000, .rules Rules.unitedStates, some ⟨1974, 1, .on 6, .wall 7200⟩⟩,
    ⟨-21600, .fixed 3600, some ⟨1974, 10, .on 27, .wall 7200⟩⟩,
    ⟨-18000, .rules Rules.unitedStates, some ⟨1976, 1, .on 1, .wall 0⟩⟩,
    ⟨-18000, .fixed 0, some ⟨2006, 1, .on 1, .wall 0⟩⟩, ⟨-18000, .rules Rules.unitedStates, none⟩]),
  ("America/Indiana/Petersburg", [
    ⟨-20947, .fixed 0, some ⟨1883, 11, .on 18, .universal 64800⟩⟩,
    ⟨-21600, .rules Rules.unitedStates, some ⟨1955, 1, .on 1, .wall 0⟩⟩,
    ⟨-21600, .rules Rules.pike, some ⟨1965, 4, .on 25, .wall 7200⟩⟩,
    ⟨-18000, .fixed 0, some ⟨1966, 10, .on 30, .wall 7200⟩⟩,
    ⟨-21600, .rules Rules.unitedStates, some ⟨1977, 10, .on 30, .wall 7200⟩⟩,
    ⟨-18000, .fixed 0, some ⟨2006, 4, .on 2, .wall 7200⟩⟩,
    ⟨-21600, .rules Rules.unitedStates, some ⟨2007, 11, .on 4, .wall 7200⟩⟩,
    ⟨-18000, .rules Rules.unitedStates, none⟩]),
  ("America/Indiana/Tell_City", [
    ⟨-20823, .fixed 0, some ⟨1883, 11, .on 18, .universal 64800⟩⟩,
    ⟨-21600, .rules Rules.unitedStates, some ⟨1946, 1, .on 1, .wall 0⟩⟩,
    ⟨-21600, .rules Rules.perry, some ⟨1964, 4, .on 26, .wall 7200⟩⟩,
    ⟨-18000, .fixed 0, some ⟨1967, 10, .on 29, .wall 7200⟩⟩,
    ⟨-21600, .rules Rules.unitedStates, some ⟨1969, 4, .on 27, .wall 7200⟩⟩,
    ⟨-18000, .rules Rules.unitedStates, some ⟨1971, 1, .on 1, .wall 0⟩⟩,
    ⟨-18000, .fixed 0, some ⟨2006, 4, .on 2, .wall 7200⟩⟩,
    ⟨-21600, .rules Rules.unitedStates, none⟩]),
  ("America/Indiana/Vevay", [
    ⟨-20416, .fixed 0, some ⟨1883, 11, .on 18, .universal 64800⟩⟩,
    ⟨-21600, .rules Rules.unitedStates, some ⟨1954, 4, .on 25, .wall 7200⟩⟩,
    ⟨-18000, .fixed 0, some ⟨1969, 1, .on 1, .wall 0⟩⟩,
    ⟨-18000, .rules Rules.unitedStates, some ⟨1973, 1, .on 1, .wall 0⟩⟩,
    ⟨-18000, .fixed 0, some ⟨2006, 1, .on 1, .wall 0⟩⟩, ⟨-18000, .rules Rules.unitedStates, none⟩]),
  ("America/Indiana/Vincennes", [
    ⟨-21007, .fixed 0, some ⟨1883, 11, .on 18, .universal 64800⟩⟩,
    ⟨-21600, .rules Rules.unitedStates, some ⟨1946, 1, .on 1, .wall 0⟩⟩,
    ⟨-21600, .rules Rules.vincennes, some ⟨1964, 4, .on 26, .wall 7200⟩⟩,
    ⟨-18000, .fixed 0, some ⟨1969, 1, .on 1, .wall 0⟩⟩,
    ⟨-18000, .rules Rules.unitedStates, some ⟨1971, 1, .on 1, .wall 0⟩⟩,
    ⟨-18000, .fixed 0, some ⟨2006, 4, .on 2, .wall 7200⟩⟩,
    ⟨-21600, .rules Rules.unitedStates, some ⟨2007, 11, .on 4, .wall 7200⟩⟩,
    ⟨-18000, .rules Rules.unitedStates, none⟩]),
  ("America/Indiana/Winamac", [
    ⟨-20785, .fixed 0, some ⟨1883, 11, .on 18, .universal 64800⟩⟩,
    ⟨-21600, .rules Rules.unitedStates, some ⟨1946, 1, .on 1, .wall 0⟩⟩,
    ⟨-21600, .rules Rules.pulaski, some ⟨1961, 4, .on 30, .wall 7200⟩⟩,
    ⟨-18000, .fixed 0, some ⟨1969, 1, .on 1, .wall 0⟩⟩,
    ⟨-18000, .rules Rules.unitedStates, some ⟨1971, 1, .on 1, .wall 0⟩⟩,
    ⟨-18000, .fixed 0, some ⟨2006, 4, .on 2, .wall 7200⟩⟩,
    ⟨-21600, .rules Rules.unitedStates, some ⟨2007, 3, .on 11, .wall 7200⟩⟩,
    ⟨-18000, .rules Rules.unitedStates, none⟩]),
  ("America/Inuvik", [
    ⟨0, .fixed 0, some ⟨1953, 1, .on 1, .wall 0⟩⟩,
    ⟨-28800, .rules Rules.northCanada, some ⟨1979, 4, .last 6, .wall 7200⟩⟩,
    ⟨-25200, .rules Rules.northCanada, some ⟨1980, 1, .on 1, .wall 0⟩⟩,
    ⟨-25200, .rules Rules.canada, none⟩]),
  ("America/Iqaluit", [
    ⟨0, .fixed 0, some ⟨1942, 8, .on 1, .wall 0⟩⟩,
    ⟨-18000, .rules Rules.northCanada, some ⟨1999, 10, .on 31, .wall 7200⟩⟩,
    ⟨-21600, .rules Rules.canada, some ⟨2000, 10, .on 29, .wall 7200⟩⟩,
    ⟨-18000, .rules Rules.canada, none⟩]),
  ("America/Jamaica", [
    ⟨-18430, .fixed 0, some ⟨1890, 1, .on 1, .wall 0⟩⟩,
    ⟨-18430, .fixed 0, some ⟨1912, 2, .on 1, .wall 0⟩⟩,
    ⟨-18000, .fixed 0, some ⟨1974, 1, .on 1, .wall 0⟩⟩,
    ⟨-18000, .rules Rules.unitedStates, some ⟨1984, 1, .on 1, .wall 0⟩⟩, ⟨-18000, .fixed 0, none⟩]),
  ("America/Juneau", [
    ⟨54139, .fixed 0, some ⟨1867, 10, .on 19, .wall 56012⟩⟩,
    ⟨-32261, .fixed 0, some ⟨1900, 8, .on 20, .wall 43200⟩⟩,
    ⟨-28800, .fixed 0, some ⟨1942, 1, .on 1, .wall 0⟩⟩,
    ⟨-28800, .rules Rules.unitedStates, some ⟨1946, 1, .on 1, .wall 0⟩⟩,
    ⟨-28800, .fixed 0, some ⟨1969, 1, .on 1, .wall 0⟩⟩,
    ⟨-28800, .rules Rules.unitedStates, some ⟨1980, 4, .on 27, .wall 7200⟩⟩,
    ⟨-32400, .rules Rules.unitedStates, some ⟨1980, 10, .on 26, .wall 7200⟩⟩,
    ⟨-28800, .rules Rules.unitedStates, some ⟨1983, 10, .on 30, .wall 7200⟩⟩,
    ⟨-32400, .rules Rules.unitedStates, some ⟨1983, 11, .on 30, .wall 0⟩⟩,
    ⟨-32400, .rules Rules.unitedStates, none⟩]),
  ("America/Kentucky/Louisville", [
    ⟨-20582, .fixed 0, some ⟨1883, 11, .on 18, .universal 64800⟩⟩,
    ⟨-21600, .rules Rules.unitedStates, some ⟨1921, 1, .on 1, .wall 0⟩⟩,
    ⟨-21600, .rules Rules.louisville, some ⟨1942, 1, .on 1, .wall 0⟩⟩,
    ⟨-21600, .rules Rules.unitedStates, some ⟨1946, 1, .on 1, .wall 0⟩⟩,
    ⟨-21600, .rules Rules.louisville, some ⟨1961, 7, .on 23, .wall 7200⟩⟩,
    ⟨-18000, .fixed 0, some ⟨1968, 1, .on 1, .wall 0⟩⟩,
    ⟨-18000, .rules Rules.unitedStates, some ⟨1974, 1, .on 6, .wall 7200⟩⟩,
    ⟨-21600, .fixed 3600, some ⟨1974, 10, .on 27, .wall 7200⟩⟩,
    ⟨-18000, .rules Rules.unitedStates, none⟩]),
  ("America/Kentucky/Monticello", [
    ⟨-20364, .fixed 0, some ⟨1883, 11, .on 18, .universal 64800⟩⟩,
    ⟨-21600, .rules Rules.unitedStates, some ⟨1946, 1, .on 1, .wall 0⟩⟩,
    ⟨-21600, .fixed 0, some ⟨1968, 1, .on 1, .wall 0⟩⟩,
    ⟨-21600, .rules Rules.unitedStates, some ⟨2000, 10, .on 29, .wall 7200⟩⟩,
    ⟨-18000, .rules Rules.unitedStates, none⟩]),
  ("America/Los_Angeles", [
    ⟨-28378, .fixed 0, some ⟨1883, 11, .on 18, .universal 72000⟩⟩,
    ⟨-28800, .rules Rules.unitedStates, some ⟨1946, 1, .on 1, .wall 0⟩⟩,
    ⟨-28800, .rules Rules.california, some ⟨1967, 1, .on 1, .wall 0⟩⟩,
    ⟨-28800, .rules Rules.unitedStates, none⟩]),
  ("America/Managua", [
    ⟨-20708, .fixed 0, some ⟨1890, 1, .on 1, .wall 0⟩⟩,
    ⟨-20712, .fixed 0, some ⟨1934, 6, .on 23, .wall 0⟩⟩,
    ⟨-21600, .fixed 0, some ⟨1973, 5, .on 1, .wall 0⟩⟩,
    ⟨-18000, .fixed 0, some ⟨1975, 2, .on 16, .wall 0⟩⟩,
    ⟨-21600, .rules Rules.nicaragua, some ⟨1992, 1, .on 1, .wall 14400⟩⟩,
    ⟨-18000, .fixed 0, some ⟨1992, 9, .on 24, .wall 0⟩⟩,
    ⟨-21600, .fixed 0, some ⟨1993, 1, .on 1, .wall 0⟩⟩,
    ⟨-18000, .fixed 0, some ⟨1997, 1, .on 1, .wall 0⟩⟩, ⟨-21600, .rules Rules.nicaragua, none⟩]),
  ("America/Martinique", [
    ⟨-14660, .fixed 0, some ⟨1890, 1, .on 1, .wall 0⟩⟩,
    ⟨-14660, .fixed 0, some ⟨1911, 5, .on 1, .wall 0⟩⟩,
    ⟨-14400, .fixed 0, some ⟨1980, 4, .on 6, .wall 0⟩⟩,
    ⟨-14400, .fixed 3600, some ⟨1980, 9, .on 28, .wall 0⟩⟩, ⟨-14400, .fixed 0, none⟩]),
  ("America/Matamoros", [
    ⟨-23400, .fixed 0, some ⟨1922, 1, .on 1, .universal 21600⟩⟩,
    ⟨-21600, .fixed 0, some ⟨1988, 1, .on 1, .wall 0⟩⟩,
    ⟨-21600, .rules Rules.unitedStates, some ⟨1989, 1, .on 1, .wall 0⟩⟩,
    ⟨-21600, .rules Rules.mexico, some ⟨2010, 1, .on 1, .wall 0⟩⟩,
    ⟨-21600, .rules Rules.unitedStates, none⟩]),
  ("America/Mazatlan", [
    ⟨-25540, .fixed 0, some ⟨1922, 1, .on 1, .universal 25200⟩⟩,
    ⟨-25200, .fixed 0, some ⟨1927, 6, .on 10, .wall 0⟩⟩,
    ⟨-21600, .fixed 0, some ⟨1930, 11, .on 15, .wall 0⟩⟩,
    ⟨-25200, .rules Rules.mexico, some ⟨1932, 4, .on 1, .wall 0⟩⟩,
    ⟨-21600, .fixed 0, some ⟨1942, 4, .on 24, .wall 0⟩⟩,
    ⟨-25200, .fixed 0, some ⟨1970, 1, .on 1, .wall 0⟩⟩, ⟨-25200, .rules Rules.mexico, none⟩]),
  ("America/Menominee", [
    ⟨-21027, .fixed 0, some ⟨1885, 9, .on 18, .wall 43200⟩⟩,
    ⟨-21600, .rules Rules.unitedStates, some ⟨1946, 1, .on 1, .wall 0⟩⟩,
    ⟨-21600, .rules Rules.menominee, some ⟨1969, 4, .on 27, .wall 7200⟩⟩,
    ⟨-18000, .fixed 0, some ⟨1973, 4, .on 29, .wall 7200⟩⟩,
    ⟨-21600, .rules Rules.unitedStates, none⟩]),
  ("America/Merida", [
    ⟨-21508, .fixed 0, some ⟨1922, 1, .on 1, .universal 21600⟩⟩,
    ⟨-21600, .fixed 0, some ⟨1981, 12, .on 26, .wall 7200⟩⟩,
    ⟨-18000, .fixed 0, some ⟨1982, 11, .on 2, .wall 7200⟩⟩, ⟨-21600, .rules Rules.mexico, none⟩]),
  ("America/Metlakatla", [
    ⟨54822, .fixed 0, some ⟨1867, 10, .on 19, .wall 56695⟩⟩,
    ⟨-31578, .fixed 0, some ⟨1900, 8, .on 20, .wall 43200⟩⟩,
    ⟨-28800, .fixed 0, some ⟨1942, 1, .on 1, .wall 0⟩⟩,
    ⟨-28800, .rules Rules.unitedStates, some ⟨1946, 1, .on 1, .wall 0⟩⟩,
    ⟨-28800, .fixed 0, some ⟨1969, 1, .on 1, .wall 0⟩⟩,
    ⟨-28800, .rules Rules.unitedStates, some ⟨1983, 10, .on 30, .wall 7200⟩⟩,
    ⟨-28800, .fixed 0, some ⟨2015, 11, .on 1, .wall 7200⟩⟩,
    ⟨-32400, .rules Rules.unitedStates, some ⟨2018, 11, .on 4, .wall 7200⟩⟩,
    ⟨-28800, .fixed 0, some ⟨2019, 1, .on 20, .wall 7200⟩⟩,
    ⟨-32400, .rules Rules.unitedStates, none⟩]),
  ("America/Mexico_City", [
    ⟨-23796, .fixed 0, some ⟨1922, 1, .on 1, .universal 25200⟩⟩,
    ⟨-25200, .fixed 0, some ⟨1927, 6, .on 10, .wall 0⟩⟩,
    ⟨-21600, .fixed 0, some ⟨1930, 11, .on 15, .wall 0⟩⟩,
    ⟨-25200, .rules Rules.mexico, some ⟨1932, 4, .on 1, .wall 0⟩⟩,
    ⟨-21600, .rules Rules.mexico, some ⟨2001, 9, .on 30, .wall 7200⟩⟩,
    ⟨-21600, .fixed 0, some ⟨2002, 2, .on 20, .wall 0⟩⟩, ⟨-21600, .rules Rules.mexico, none⟩]),
  ("America/Miquelon", [
    ⟨-13480, .fixed 0, some ⟨1911, 6, .on 15, .wall 0⟩⟩,
    ⟨-14400, .fixed 0, some ⟨1980, 5, .on 1, .wall 0⟩⟩,
    ⟨-10800, .fixed 0, some ⟨1987, 1, .on 1, .wall 0⟩⟩, ⟨-10800, .rules Rules.canada, none⟩]),
  ("America/Moncton", [
    ⟨-15548, .fixed 0, some ⟨1883, 12, .on 9, .wall 0⟩⟩,
    ⟨-18000, .fixed 0, some ⟨1902, 6, .on 15, .wall 0⟩⟩,
    ⟨-14400, .rules Rules.canada, some ⟨1933, 1, .on 1, .wall 0⟩⟩,
    ⟨-14400, .rules Rules.moncton, some ⟨1942, 1, .on 1, .wall 0⟩⟩,
    ⟨-14400, .rules Rules.canada, some ⟨1946, 1, .on 1, .wall 0⟩⟩,
    ⟨-14400, .rules Rules.moncton, some ⟨1973, 1, .on 1, .wall 0⟩⟩,
    ⟨-14400, .rules Rules.canada, some ⟨1993, 1, .on 1, .wall 0⟩⟩,
    ⟨-14400, .rules Rules.moncton, some ⟨2007, 1, .on 1, .wall 0⟩⟩,
    ⟨-14400, .rules Rules.canada, none⟩]),
  ("America/Monterrey", [
    ⟨-24076, .fixed 0, some ⟨1922, 1, .on 1, .universal 21600⟩⟩,
    ⟨-25200, .fixed 0, some ⟨1927, 6, .on 10, .wall 0⟩⟩,
    ⟨-21600, .fixed 0, some ⟨1930, 11, .on 15, .wall 0⟩⟩,
    ⟨-25200, .rules Rules.mexico, some ⟨1932, 4, .on 1, .wall 0⟩⟩,
    ⟨-21600, .fixed 0, some ⟨1988, 1, .on 1, .wall 0⟩⟩,
    ⟨-21600, .rules Rules.unitedStates, some ⟨1989, 1, .on 1, .wall 0⟩⟩,
    ⟨-21600, .rules Rules.mexico, none⟩]),
  ("America/New_York", [
    ⟨-17762, .fixed 0, some ⟨1883, 11, .on 18, .universal 61200⟩⟩,
    ⟨-18000, .rules Rules.unitedStates, some ⟨1920, 1, .on 1, .wall 0⟩⟩,
    ⟨-18000, .rules Rules.newYork, some ⟨1942, 1, .on 1, .wall 0⟩⟩,
    ⟨-18000, .rules Rules.unitedStates, some ⟨1946, 1, .on 1, .wall 0⟩⟩,
    ⟨-18000, .rules Rules.newYork, some ⟨1967, 1, .on 1, .wall 0⟩⟩,
    ⟨-18000, .rules Rules.unitedStates, none⟩]),
  ("America/Nome", [
    ⟨46702, .fixed 0, some ⟨1867, 10, .on 19, .wall 48575⟩⟩,
    ⟨-39698, .fixed 0, some ⟨1900, 8, .on 20, .wall 43200⟩⟩,
    ⟨-39600, .fixed 0, some ⟨1942, 1, .on 1, .wall 0⟩⟩,
    ⟨-39600, .rules Rules.unitedStates, some ⟨1946, 1, .on 1, .wall 0⟩⟩,
    ⟨-39600, .fixed 0, some ⟨1967, 4, .on 1, .wall 0⟩⟩,
    ⟨-39600, .fixed 0, some ⟨1969, 1, .on 1, .wall 0⟩⟩,
    ⟨-39600, .rules Rules.unitedStates, some ⟨1983, 10, .on 30, .wall 7200⟩⟩,
    ⟨-32400, .rules Rules.unitedStates, some ⟨1983, 11, .on 30, .wall 0⟩⟩,
    ⟨-32400, .rules Rules.unitedStates, none⟩]),
  ("America/North_Dakota/Beulah", [
    ⟨-24427, .fixed 0, some ⟨1883, 11, .on 18, .universal 68400⟩⟩,
    ⟨-25200, .rules Rules.unitedStates, some ⟨2010, 11, .on 7, .wall 7200⟩⟩,
    ⟨-21600, .rules Rules.unitedStates, none⟩]),
  ("America/North_Dakota/Center", [
    ⟨-24312, .fixed 0, some ⟨1883, 11, .on 18, .universal 68400⟩⟩,
    ⟨-25200, .rules Rules.unitedStates, some ⟨1992, 10, .on 25, .wall 7200⟩⟩,
    ⟨-21600, .rules Rules.unitedStates, none⟩]),
  ("America/North_Dakota/New_Salem", [
    ⟨-24339, .fixed 0, some ⟨1883, 11, .on 18, .universal 68400⟩⟩,
    ⟨-25200, .rules Rules.unitedStates, some ⟨2003, 10, .on 26, .wall 7200⟩⟩,
    ⟨-21600, .rules Rules.unitedStates, none⟩]),
  ("America/Nuuk", [
    ⟨-12416, .fixed 0, some ⟨1916, 7, .on 28, .wall 0⟩⟩,
    ⟨-10800, .fixed 0, some ⟨1980, 4, .on 6, .wall 7200⟩⟩,
    ⟨-10800, .rules Rules.europe, some ⟨2023, 3, .on 26, .universal 3600⟩⟩,
    ⟨-7200, .fixed 0, some ⟨2023, 10, .on 29, .universal 3600⟩⟩,
    ⟨-7200, .rules Rules.europe, none⟩]),
  ("America/Ojinaga", [
    ⟨-25060, .fixed 0, some ⟨1922, 1, .on 1, .universal 25200⟩⟩,
    ⟨-25200, .fixed 0, some ⟨1927, 6, .on 10, .wall 0⟩⟩,
    ⟨-21600, .fixed 0, some ⟨1930, 11, .on 15, .wall 0⟩⟩,
    ⟨-25200, .rules Rules.mexico, some ⟨1932, 4, .on 1, .wall 0⟩⟩,
    ⟨-21600, .fixed 0, some ⟨1996, 1, .on 1, .wall 0⟩⟩,
    ⟨-21600, .rules Rules.mexico, some ⟨1998, 1, .on 1, .wall 0⟩⟩,
    ⟨-21600, .fixed 0, some ⟨1998, 4, .since 6 1, .wall 10800⟩⟩,
    ⟨-25200, .rules Rules.mexico, some ⟨2010, 1, .on 1, .wall 0⟩⟩,
    ⟨-25200, .rules Rules.unitedStates, some ⟨2022, 10, .on 30, .wall 7200⟩⟩,
    ⟨-21600, .fixed 0, some ⟨2022, 11, .on 30, .wall 0⟩⟩,
    ⟨-21600, .rules Rules.unitedStates, none⟩]),
  ("America/Panama", [
    ⟨-19088, .fixed 0, some ⟨1890, 1, .on 1, .wall 0⟩⟩,
    ⟨-19176, .fixed 0, some ⟨1908, 4, .on 22, .wall 0⟩⟩, ⟨-18000, .fixed 0, none⟩]),
  ("America/Phoenix", [
    ⟨-26898, .fixed 0, some ⟨1883, 11, .on 18, .universal 68400⟩⟩,
    ⟨-25200, .rules Rules.unitedStates, some ⟨1944, 1, .on 1, .wall 60⟩⟩,
    ⟨-25200, .fixed 0, some ⟨1944, 4, .on 1, .wall 60⟩⟩,
    ⟨-25200, .rules Rules.unitedStates, some ⟨1944, 10, .on 1, .wall 60⟩⟩,
    ⟨-25200, .fixed 0, some ⟨1967, 1, .on 1, .wall 0⟩⟩,
    ⟨-25200, .rules Rules.unitedStates, some ⟨1968, 3, .on 21, .wall 0⟩⟩,
    ⟨-25200, .fixed 0, none⟩]),
  ("America/Port-au-Prince", [
    ⟨-17360, .fixed 0, some ⟨1890, 1, .on 1, .wall 0⟩⟩,
    ⟨-17340, .fixed 0, some ⟨1917, 1, .on 24, .wall 43200⟩⟩, ⟨-18000, .rules Rules.haiti, none⟩]),
  ("America/Puerto_Rico", [
    ⟨-15865, .fixed 0, some ⟨1899, 3, .on 28, .wall 43200⟩⟩,
    ⟨-14400, .fixed 0, some ⟨1942, 5, .on 3, .wall 0⟩⟩,
    ⟨-14400, .rules Rules.unitedStates, some ⟨1946, 1, .on 1, .wall 0⟩⟩, ⟨-14400, .fixed 0, none⟩]),
  ("America/Rankin_Inlet", [
    ⟨0, .fixed 0, some ⟨1957, 1, .on 1, .wall 0⟩⟩,
    ⟨-21600, .rules Rules.northCanada, some ⟨2000, 10, .on 29, .wall 7200⟩⟩,
    ⟨-18000, .fixed 0, some ⟨2001, 4, .on 1, .wall 10800⟩⟩, ⟨-21600, .rules Rules.canada, none⟩]),
  ("America/Regina", [
    ⟨-25116, .fixed 0, some ⟨1905, 9, .on 1, .wall 0⟩⟩,
    ⟨-25200, .rules Rules.regina, some ⟨1960, 4, .last 6, .wall 7200⟩⟩, ⟨-21600, .fixed 0, none⟩]),
  ("America/Resolute", [
    ⟨0, .fixed 0, some ⟨1947, 8, .on 31, .wall 0⟩⟩,
    ⟨-21600, .rules Rules.northCanada, some ⟨2000, 10, .on 29, .wall 7200⟩⟩,
    ⟨-18000, .fixed 0, some ⟨2001, 4, .on 1, .wall 10800⟩⟩,
    ⟨-21600, .rules Rules.canada, some ⟨2006, 10, .on 29, .wall 7200⟩⟩,
    ⟨-18000, .fixed 0, some ⟨2007, 3, .on 11, .wall 10800⟩⟩, ⟨-21600, .rules Rules.canada, none⟩]),
  ("America/Santo_Domingo", [
    ⟨-16776, .fixed 0, some ⟨1890, 1, .on 1, .wall 0⟩⟩,
    ⟨-16800, .fixed 0, some ⟨1933, 4, .on 1, .wall 43200⟩⟩,
    ⟨-18000, .rules Rules.dominicanRepublic, some ⟨1974, 10, .on 27, .wall 0⟩⟩,
    ⟨-14400, .fixed 0, some ⟨2000, 10, .on 29, .wall 7200⟩⟩,
    ⟨-18000, .rules Rules.unitedStates, some ⟨2000, 12, .on 3, .wall 3600⟩⟩,
    ⟨-14400, .fixed 0, none⟩]),
  ("America/Scoresbysund", [
    ⟨-5272, .fixed 0, some ⟨1916, 7, .on 28, .wall 0⟩⟩,
    ⟨-7200, .fixed 0, some ⟨1980, 4, .on 6, .wall 7200⟩⟩,
    ⟨-7200, .rules Rules.centralEurope, some ⟨1981, 3, .on 29, .wall 0⟩⟩,
    ⟨-3600, .rules Rules.europe, some ⟨2024, 3, .on 31, .wall 0⟩⟩,
    ⟨-7200, .rules Rules.europe, none⟩]),
  ("America/Sitka", [
    ⟨53927, .fixed 0, some ⟨1867, 10, .on 19, .wall 55800⟩⟩,
    ⟨-32473, .fixed 0, some ⟨1900, 8, .on 20, .wall 43200⟩⟩,
    ⟨-28800, .fixed 0, some ⟨1942, 1, .on 1, .wall 0⟩⟩,
    ⟨-28800, .rules Rules.unitedStates, some ⟨1946, 1, .on 1, .wall 0⟩⟩,
    ⟨-28800, .fixed 0, some ⟨1969, 1, .on 1, .wall 0⟩⟩,
    ⟨-28800, .rules Rules.unitedStates, some ⟨1983, 10, .on 30, .wall 7200⟩⟩,
    ⟨-32400, .rules Rules.unitedStates, some ⟨1983, 11, .on 30, .wall 0⟩⟩,
    ⟨-32400, .rules Rules.unitedStates, none⟩]),
  ("America/St_Johns", [
    ⟨-12652, .fixed 0, some ⟨1884, 1, .on 1, .wall 0⟩⟩,
    ⟨-12652, .rules Rules.stJohns, some ⟨1918, 1, .on 1, .wall 0⟩⟩,
    ⟨-12652, .rules Rules.canada, some ⟨1919, 1, .on 1, .wall 0⟩⟩,
    ⟨-12652, .rules Rules.stJohns, some ⟨1935, 3, .on 30, .wall 0⟩⟩,
    ⟨-12600, .rules Rules.stJohns, some ⟨1942, 5, .on 11, .wall 0⟩⟩,
    ⟨-12600, .rules Rules.canada, some ⟨1946, 1, .on 1, .wall 0⟩⟩,
    ⟨-12600, .rules Rules.stJohns, some ⟨2011, 11, .on 1, .wall 0⟩⟩,
    ⟨-12600, .rules Rules.canada, none⟩]),
  ("America/Swift_Current", [
    ⟨-25880, .fixed 0, some ⟨1905, 9, .on 1, .wall 0⟩⟩,
    ⟨-25200, .rules Rules.canada, some ⟨1946, 4, .last 6, .wall 7200⟩⟩,
    ⟨-25200, .rules Rules.regina, some ⟨1950, 1, .on 1, .wall 0⟩⟩,
    ⟨-25200, .rules Rules.swiftCurrent, some ⟨1972, 4, .last 6, .wall 7200⟩⟩,
    ⟨-21600, .fixed 0, none⟩]),
  ("America/Tegucigalpa", [
    ⟨-20932, .fixed 0, some ⟨1921, 4, .on 1, .wall 0⟩⟩, ⟨-21600, .rules Rules.honduras, none⟩]),
  ("America/Thule", [
    ⟨-16508, .fixed 0, some ⟨1916, 7, .on 28, .wall 0⟩⟩, ⟨-14400, .rules Rules.thule, none⟩]),
  ("America/Tijuana", [
    ⟨-28084, .fixed 0, some ⟨1922, 1, .on 1, .universal 25200⟩⟩,
    ⟨-25200, .fixed 0, some ⟨1924, 1, .on 1, .wall 0⟩⟩,
    ⟨-28800, .fixed 0, some ⟨1927, 6, .on 10, .wall 0⟩⟩,
    ⟨-25200, .fixed 0, some ⟨1930, 11, .on 15, .wall 0⟩⟩,
    ⟨-28800, .fixed 0, some ⟨1931, 4, .on 1, .wall 0⟩⟩,
    ⟨-28800, .fixed 3600, some ⟨1931, 9, .on 30, .wall 0⟩⟩,
    ⟨-28800, .fixed 0, some ⟨1942, 4, .on 24, .wall 0⟩⟩,
    ⟨-28800, .fixed 3600, some ⟨1945, 8, .on 14, .universal 82800⟩⟩,
    ⟨-28800, .fixed 3600, some ⟨1945, 11, .on 15, .wall 0⟩⟩,
    ⟨-28800, .fixed 0, some ⟨1948, 4, .on 5, .wall 0⟩⟩,
    ⟨-28800, .fixed 3600, some ⟨1949, 1, .on 14, .wall 0⟩⟩,
    ⟨-28800, .fixed 0, some ⟨1950, 5, .on 1, .wall 0⟩⟩,
    ⟨-28800, .fixed 3600, some ⟨1950, 9, .on 24, .wall 0⟩⟩,
    ⟨-28800, .fixed 0, some ⟨1951, 4, .on 29, .wall 7200⟩⟩,
    ⟨-28800, .fixed 3600, some ⟨1951, 9, .on 30, .wall 7200⟩⟩,
    ⟨-28800, .fixed 0, some ⟨1952, 4, .on 27, .wall 7200⟩⟩,
    ⟨-28800, .fixed 3600, some ⟨1952, 9, .on 28, .wall 7200⟩⟩,
    ⟨-28800, .rules Rules.california, some ⟨1967, 1, .on 1, .wall 0⟩⟩,
    ⟨-28800, .rules Rules.unitedStates, some ⟨1996, 1, .on 1, .wall 0⟩⟩,
    ⟨-28800, .rules Rules.mexico, some ⟨2001, 1, .on 1, .wall 0⟩⟩,
    ⟨-28800, .rules Rules.unitedStates, some ⟨2002, 2, .on 20, .wall 0⟩⟩,
    ⟨-28800, .rules Rules.mexico, some ⟨2010, 1, .on 1, .wall 0⟩⟩,
    ⟨-28800, .rules Rules.unitedStates, none⟩]),
  ("America/Toronto", [
    ⟨-19052, .fixed 0, some ⟨1895, 1, .on 1, .wall 0⟩⟩,
    ⟨-18000, .rules Rules.canada, some ⟨1919, 1, .on 1, .wall 0⟩⟩,
    ⟨-18000, .rules Rules.toronto, some ⟨1942, 2, .on 9, .standard 7200⟩⟩,
    ⟨-18000, .rules Rules.canada, some ⟨1946, 1, .on 1, .wall 0⟩⟩,
    ⟨-18000, .rules Rules.toronto, some ⟨1974, 1, .on 1, .wall 0⟩⟩,
    ⟨-18000, .rules Rules.canada, none⟩]),
  ("America/Vancouver", [
    ⟨-29548, .fixed 0, some ⟨1884, 1, .on 1, .wall 0⟩⟩,
    ⟨-28800, .rules Rules.vancouver, some ⟨1987, 1, .on 1, .wall 0⟩⟩,
    ⟨-28800, .rules Rules.canada, none⟩]),
  ("America/Whitehorse", [
    ⟨-32412, .fixed 0, some ⟨1900, 8, .on 20, .wall 0⟩⟩,
    ⟨-32400, .rules Rules.northCanada, some ⟨1965, 1, .on 1, .wall 0⟩⟩,
    ⟨-32400, .rules Rules.yukon, some ⟨1966, 2, .on 27, .wall 0⟩⟩,
    ⟨-28800, .fixed 0, some ⟨1980, 1, .on 1, .wall 0⟩⟩,
    ⟨-28800, .rules Rules.canada, some ⟨2020, 11, .on 1, .wall 0⟩⟩, ⟨-25200, .fixed 0, none⟩]),
  ("America/Winnipeg", [
    ⟨-23316, .fixed 0, some ⟨1887, 7, .on 16, .wall 0⟩⟩,
    ⟨-21600, .rules Rules.winnipeg, some ⟨2006, 1, .on 1, .wall 0⟩⟩,
    ⟨-21600, .rules Rules.canada, none⟩]),
  ("America/Yakutat", [
    ⟨52865, .fixed 0, some ⟨1867, 10, .on 19, .wall 54738⟩⟩,
    ⟨-33535, .fixed 0, some ⟨1900, 8, .on 20, .wall 43200⟩⟩,
    ⟨-32400, .fixed 0, some ⟨1942, 1, .on 1, .wall 0⟩⟩,
    ⟨-32400, .rules Rules.unitedStates, some ⟨1946, 1, .on 1, .wall 0⟩⟩,
    ⟨-32400, .fixed 0, some ⟨1969, 1, .on 1, .wall 0⟩⟩,
    ⟨-32400, .rules Rules.unitedStates, some ⟨1983, 11, .on 30, .wall 0⟩⟩,
    ⟨-32400, .rules Rules.unitedStates, none⟩])]

end ForeignLayer.Calendar.Zones
