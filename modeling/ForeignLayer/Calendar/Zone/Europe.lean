import ForeignLayer.Calendar.Zone.Rules.Europe
import ForeignLayer.Calendar.Zone.Rules.NorthAmerica
import ForeignLayer.Calendar.Zone.Rules.SouthAmerica

/-!
# Time zones of Europe and the Atlantic

The histories of the zones, from the public record of time zones.
-/

namespace ForeignLayer.Calendar.Zones

/-- The names and the histories of the zones. -/
def europe : List (String × History) := [
  ("Atlantic/Azores", [
    ⟨-6160, .fixed 0, some ⟨1884, 1, .on 1, .wall 0⟩⟩,
    ⟨-6872, .fixed 0, some ⟨1912, 1, .on 1, .universal 7200⟩⟩,
    ⟨-7200, .rules Rules.portugal, some ⟨1942, 4, .on 25, .standard 79200⟩⟩,
    ⟨-7200, .rules Rules.portugal, some ⟨1942, 8, .on 15, .standard 79200⟩⟩,
    ⟨-7200, .rules Rules.portugal, some ⟨1943, 4, .on 17, .standard 79200⟩⟩,
    ⟨-7200, .rules Rules.portugal, some ⟨1943, 8, .on 28, .standard 79200⟩⟩,
    ⟨-7200, .rules Rules.portugal, some ⟨1944, 4, .on 22, .standard 79200⟩⟩,
    ⟨-7200, .rules Rules.portugal, some ⟨1944, 8, .on 26, .standard 79200⟩⟩,
    ⟨-7200, .rules Rules.portugal, some ⟨1945, 4, .on 21, .standard 79200⟩⟩,
    ⟨-7200, .rules Rules.portugal, some ⟨1945, 8, .on 25, .standard 79200⟩⟩,
    ⟨-7200, .rules Rules.portugal, some ⟨1966, 10, .on 2, .standard 7200⟩⟩,
    ⟨-3600, .fixed 0, some ⟨1982, 3, .on 28, .standard 0⟩⟩,
    ⟨-3600, .rules Rules.portugal, some ⟨1986, 1, .on 1, .wall 0⟩⟩,
    ⟨-3600, .rules Rules.europe, some ⟨1992, 12, .on 27, .standard 3600⟩⟩,
    ⟨0, .rules Rules.europe, some ⟨1993, 6, .on 17, .universal 3600⟩⟩,
    ⟨-3600, .rules Rules.europe, none⟩]),
  ("Atlantic/Bermuda", [
    ⟨-15558, .fixed 0, some ⟨1890, 1, .on 1, .wall 0⟩⟩,
    ⟨-15558, .rules Rules.bermuda, some ⟨1930, 1, .on 1, .wall 7200⟩⟩,
    ⟨-14400, .rules Rules.bermuda, some ⟨1974, 4, .on 28, .wall 7200⟩⟩,
    ⟨-14400, .rules Rules.canada, some ⟨1976, 1, .on 1, .wall 0⟩⟩,
    ⟨-14400, .rules Rules.unitedStates, none⟩]),
  ("Atlantic/Canary", [
    ⟨-3696, .fixed 0, some ⟨1922, 3, .on 1, .wall 0⟩⟩,
    ⟨-3600, .fixed 0, some ⟨1946, 9, .on 30, .wall 3600⟩⟩,
    ⟨0, .fixed 0, some ⟨1980, 4, .on 6, .standard 0⟩⟩,
    ⟨0, .fixed 3600, some ⟨1980, 9, .on 28, .universal 3600⟩⟩, ⟨0, .rules Rules.europe, none⟩]),
  ("Atlantic/Cape_Verde", [
    ⟨-5644, .fixed 0, some ⟨1912, 1, .on 1, .universal 7200⟩⟩,
    ⟨-7200, .fixed 0, some ⟨1942, 9, .on 1, .wall 0⟩⟩,
    ⟨-7200, .fixed 3600, some ⟨1945, 10, .on 15, .wall 0⟩⟩,
    ⟨-7200, .fixed 0, some ⟨1975, 11, .on 25, .wall 7200⟩⟩, ⟨-3600, .fixed 0, none⟩]),
  ("Atlantic/Faroe", [
    ⟨-1624, .fixed 0, some ⟨1908, 1, .on 11, .wall 0⟩⟩,
    ⟨0, .fixed 0, some ⟨1981, 1, .on 1, .wall 0⟩⟩, ⟨0, .rules Rules.europe, none⟩]),
  ("Atlantic/Madeira", [
    ⟨-4056, .fixed 0, some ⟨1884, 1, .on 1, .wall 0⟩⟩,
    ⟨-4056, .fixed 0, some ⟨1912, 1, .on 1, .universal 3600⟩⟩,
    ⟨-3600, .rules Rules.portugal, some ⟨1942, 4, .on 25, .standard 79200⟩⟩,
    ⟨-3600, .rules Rules.portugal, some ⟨1942, 8, .on 15, .standard 79200⟩⟩,
    ⟨-3600, .rules Rules.portugal, some ⟨1943, 4, .on 17, .standard 79200⟩⟩,
    ⟨-3600, .rules Rules.portugal, some ⟨1943, 8, .on 28, .standard 79200⟩⟩,
    ⟨-3600, .rules Rules.portugal, some ⟨1944, 4, .on 22, .standard 79200⟩⟩,
    ⟨-3600, .rules Rules.portugal, some ⟨1944, 8, .on 26, .standard 79200⟩⟩,
    ⟨-3600, .rules Rules.portugal, some ⟨1945, 4, .on 21, .standard 79200⟩⟩,
    ⟨-3600, .rules Rules.portugal, some ⟨1945, 8, .on 25, .standard 79200⟩⟩,
    ⟨-3600, .rules Rules.portugal, some ⟨1966, 10, .on 2, .standard 7200⟩⟩,
    ⟨0, .fixed 0, some ⟨1982, 4, .on 4, .wall 0⟩⟩,
    ⟨0, .rules Rules.portugal, some ⟨1986, 7, .on 31, .wall 0⟩⟩, ⟨0, .rules Rules.europe, none⟩]),
  ("Atlantic/South_Georgia", [
    ⟨-8768, .fixed 0, some ⟨1890, 1, .on 1, .wall 0⟩⟩, ⟨-7200, .fixed 0, none⟩]),
  ("Atlantic/Stanley", [
    ⟨-13884, .fixed 0, some ⟨1890, 1, .on 1, .wall 0⟩⟩,
    ⟨-13884, .fixed 0, some ⟨1912, 3, .on 12, .wall 0⟩⟩,
    ⟨-14400, .rules Rules.falklands, some ⟨1983, 5, .on 1, .wall 0⟩⟩,
    ⟨-10800, .rules Rules.falklands, some ⟨1985, 9, .on 15, .wall 0⟩⟩,
    ⟨-14400, .rules Rules.falklands, some ⟨2010, 9, .on 5, .wall 7200⟩⟩, ⟨-10800, .fixed 0, none⟩]),
  ("Europe/Andorra", [
    ⟨364, .fixed 0, some ⟨1901, 1, .on 1, .wall 0⟩⟩, ⟨0, .fixed 0, some ⟨1946, 9, .on 30, .wall 0⟩⟩,
    ⟨3600, .fixed 0, some ⟨1985, 3, .on 31, .wall 7200⟩⟩, ⟨3600, .rules Rules.europe, none⟩]),
  ("Europe/Astrakhan", [
    ⟨11532, .fixed 0, some ⟨1924, 5, .on 1, .wall 0⟩⟩,
    ⟨10800, .fixed 0, some ⟨1930, 6, .on 21, .wall 0⟩⟩,
    ⟨14400, .rules Rules.russia, some ⟨1989, 3, .on 26, .standard 7200⟩⟩,
    ⟨10800, .rules Rules.russia, some ⟨1991, 3, .on 31, .standard 7200⟩⟩,
    ⟨14400, .fixed 0, some ⟨1992, 3, .on 29, .standard 7200⟩⟩,
    ⟨10800, .rules Rules.russia, some ⟨2011, 3, .on 27, .standard 7200⟩⟩,
    ⟨14400, .fixed 0, some ⟨2014, 10, .on 26, .standard 7200⟩⟩,
    ⟨10800, .fixed 0, some ⟨2016, 3, .on 27, .standard 7200⟩⟩, ⟨14400, .fixed 0, none⟩]),
  ("Europe/Athens", [
    ⟨5692, .fixed 0, some ⟨1895, 9, .on 14, .wall 0⟩⟩,
    ⟨5692, .fixed 0, some ⟨1916, 7, .on 28, .wall 60⟩⟩,
    ⟨7200, .rules Rules.greece, some ⟨1941, 4, .on 30, .wall 0⟩⟩,
    ⟨3600, .rules Rules.greece, some ⟨1944, 4, .on 4, .wall 0⟩⟩,
    ⟨7200, .rules Rules.greece, some ⟨1981, 1, .on 1, .wall 0⟩⟩,
    ⟨7200, .rules Rules.europe, none⟩]),
  ("Europe/Belgrade", [
    ⟨4920, .fixed 0, some ⟨1884, 1, .on 1, .wall 0⟩⟩,
    ⟨3600, .fixed 0, some ⟨1941, 4, .on 18, .wall 82800⟩⟩,
    ⟨3600, .rules Rules.centralEurope, some ⟨1945, 1, .on 1, .wall 0⟩⟩,
    ⟨3600, .fixed 0, some ⟨1945, 5, .on 8, .standard 7200⟩⟩,
    ⟨3600, .fixed 3600, some ⟨1945, 9, .on 16, .standard 7200⟩⟩,
    ⟨3600, .fixed 0, some ⟨1982, 11, .on 27, .wall 0⟩⟩, ⟨3600, .rules Rules.europe, none⟩]),
  ("Europe/Berlin", [
    ⟨3208, .fixed 0, some ⟨1893, 4, .on 1, .wall 0⟩⟩,
    ⟨3600, .rules Rules.centralEurope, some ⟨1945, 5, .on 24, .wall 7200⟩⟩,
    ⟨3600, .rules Rules.berlin, some ⟨1946, 1, .on 1, .wall 0⟩⟩,
    ⟨3600, .rules Rules.germany, some ⟨1980, 1, .on 1, .wall 0⟩⟩,
    ⟨3600, .rules Rules.europe, none⟩]),
  ("Europe/Brussels", [
    ⟨1050, .fixed 0, some ⟨1880, 1, .on 1, .wall 0⟩⟩,
    ⟨1050, .fixed 0, some ⟨1892, 5, .on 1, .wall 1050⟩⟩,
    ⟨0, .fixed 0, some ⟨1914, 11, .on 8, .wall 0⟩⟩,
    ⟨3600, .fixed 0, some ⟨1916, 5, .on 1, .wall 0⟩⟩,
    ⟨3600, .rules Rules.centralEurope, some ⟨1918, 11, .on 11, .universal 39600⟩⟩,
    ⟨0, .rules Rules.belgium, some ⟨1940, 5, .on 20, .standard 7200⟩⟩,
    ⟨3600, .rules Rules.centralEurope, some ⟨1944, 9, .on 3, .wall 0⟩⟩,
    ⟨3600, .rules Rules.belgium, some ⟨1977, 1, .on 1, .wall 0⟩⟩,
    ⟨3600, .rules Rules.europe, none⟩]),
  ("Europe/Bucharest", [
    ⟨6264, .fixed 0, some ⟨1891, 10, .on 1, .wall 0⟩⟩,
    ⟨6264, .fixed 0, some ⟨1931, 7, .on 24, .wall 0⟩⟩,
    ⟨7200, .rules Rules.romania, some ⟨1981, 3, .on 29, .standard 7200⟩⟩,
    ⟨7200, .rules Rules.centralEurope, some ⟨1991, 1, .on 1, .wall 0⟩⟩,
    ⟨7200, .rules Rules.romania, some ⟨1994, 1, .on 1, .wall 0⟩⟩,
    ⟨7200, .rules Rules.eastEurope, some ⟨1997, 1, .on 1, .wall 0⟩⟩,
    ⟨7200, .rules Rules.europe, none⟩]),
  ("Europe/Budapest", [
    ⟨4580, .fixed 0, some ⟨1890, 11, .on 1, .wall 0⟩⟩,
    ⟨3600, .rules Rules.centralEurope, some ⟨1918, 1, .on 1, .wall 0⟩⟩,
    ⟨3600, .rules Rules.hungary, some ⟨1941, 4, .on 7, .wall 82800⟩⟩,
    ⟨3600, .rules Rules.centralEurope, some ⟨1945, 1, .on 1, .wall 0⟩⟩,
    ⟨3600, .rules Rules.hungary, some ⟨1984, 1, .on 1, .wall 0⟩⟩,
    ⟨3600, .rules Rules.europe, none⟩]),
  ("Europe/Chisinau", [
    ⟨6920, .fixed 0, some ⟨1880, 1, .on 1, .wall 0⟩⟩,
    ⟨6900, .fixed 0, some ⟨1918, 2, .on 15, .wall 0⟩⟩,
    ⟨6264, .fixed 0, some ⟨1931, 7, .on 24, .wall 0⟩⟩,
    ⟨7200, .rules Rules.romania, some ⟨1940, 8, .on 15, .wall 0⟩⟩,
    ⟨7200, .fixed 3600, some ⟨1941, 7, .on 17, .wall 0⟩⟩,
    ⟨3600, .rules Rules.centralEurope, some ⟨1944, 8, .on 24, .wall 0⟩⟩,
    ⟨10800, .rules Rules.russia, some ⟨1990, 5, .on 6, .wall 7200⟩⟩,
    ⟨7200, .rules Rules.russia, some ⟨1992, 1, .on 1, .wall 0⟩⟩,
    ⟨7200, .rules Rules.eastEurope, some ⟨1997, 1, .on 1, .wall 0⟩⟩,
    ⟨7200, .rules Rules.moldova, some ⟨2022, 1, .on 1, .wall 0⟩⟩,
    ⟨7200, .rules Rules.europe, none⟩]),
  ("Europe/Dublin", [
    ⟨-1521, .fixed 0, some ⟨1880, 8, .on 2, .wall 0⟩⟩,
    ⟨-1521, .fixed 0, some ⟨1916, 5, .on 21, .standard 7200⟩⟩,
    ⟨-1521, .fixed 3600, some ⟨1916, 10, .on 1, .standard 7200⟩⟩,
    ⟨0, .rules Rules.britain, some ⟨1921, 12, .on 6, .wall 0⟩⟩,
    ⟨0, .rules Rules.britain, some ⟨1940, 2, .on 25, .standard 7200⟩⟩,
    ⟨0, .fixed 3600, some ⟨1946, 10, .on 6, .standard 7200⟩⟩,
    ⟨0, .fixed 0, some ⟨1947, 3, .on 16, .standard 7200⟩⟩,
    ⟨0, .fixed 3600, some ⟨1947, 11, .on 2, .standard 7200⟩⟩,
    ⟨0, .fixed 0, some ⟨1948, 4, .on 18, .standard 7200⟩⟩,
    ⟨0, .rules Rules.britain, some ⟨1968, 10, .on 27, .wall 0⟩⟩,
    ⟨3600, .fixed 0, some ⟨1971, 10, .on 31, .universal 7200⟩⟩,
    ⟨0, .rules Rules.britain, some ⟨1996, 1, .on 1, .wall 0⟩⟩, ⟨0, .rules Rules.europe, none⟩]),
  ("Europe/Gibraltar", [
    ⟨-1284, .fixed 0, some ⟨1880, 8, .on 2, .wall 0⟩⟩,
    ⟨0, .rules Rules.britain, some ⟨1957, 4, .on 14, .wall 7200⟩⟩,
    ⟨3600, .fixed 0, some ⟨1982, 1, .on 1, .wall 0⟩⟩, ⟨3600, .rules Rules.europe, none⟩]),
  ("Europe/Helsinki", [
    ⟨5989, .fixed 0, some ⟨1878, 5, .on 31, .wall 0⟩⟩,
    ⟨5989, .fixed 0, some ⟨1921, 5, .on 1, .wall 0⟩⟩,
    ⟨7200, .rules Rules.finland, some ⟨1983, 1, .on 1, .wall 0⟩⟩,
    ⟨7200, .rules Rules.europe, none⟩]),
  ("Europe/Istanbul", [
    ⟨6952, .fixed 0, some ⟨1880, 1, .on 1, .wall 0⟩⟩,
    ⟨7016, .fixed 0, some ⟨1910, 10, .on 1, .wall 0⟩⟩,
    ⟨7200, .rules Rules.turkey, some ⟨1978, 6, .on 29, .wall 0⟩⟩,
    ⟨10800, .rules Rules.turkey, some ⟨1984, 11, .on 1, .wall 7200⟩⟩,
    ⟨7200, .rules Rules.turkey, some ⟨2007, 1, .on 1, .wall 0⟩⟩,
    ⟨7200, .rules Rules.europe, some ⟨2011, 3, .on 27, .universal 3600⟩⟩,
    ⟨7200, .fixed 0, some ⟨2011, 3, .on 28, .universal 3600⟩⟩,
    ⟨7200, .rules Rules.europe, some ⟨2014, 3, .on 30, .universal 3600⟩⟩,
    ⟨7200, .fixed 0, some ⟨2014, 3, .on 31, .universal 3600⟩⟩,
    ⟨7200, .rules Rules.europe, some ⟨2015, 10, .on 25, .universal 3600⟩⟩,
    ⟨7200, .fixed 3600, some ⟨2015, 11, .on 8, .universal 3600⟩⟩,
    ⟨7200, .rules Rules.europe, some ⟨2016, 9, .on 7, .wall 0⟩⟩, ⟨10800, .fixed 0, none⟩]),
  ("Europe/Kaliningrad", [
    ⟨4920, .fixed 0, some ⟨1893, 4, .on 1, .wall 0⟩⟩,
    ⟨3600, .rules Rules.centralEurope, some ⟨1945, 4, .on 10, .wall 0⟩⟩,
    ⟨7200, .rules Rules.poland, some ⟨1946, 4, .on 7, .wall 0⟩⟩,
    ⟨10800, .rules Rules.russia, some ⟨1989, 3, .on 26, .standard 7200⟩⟩,
    ⟨7200, .rules Rules.russia, some ⟨2011, 3, .on 27, .standard 7200⟩⟩,
    ⟨10800, .fixed 0, some ⟨2014, 10, .on 26, .standard 7200⟩⟩, ⟨7200, .fixed 0, none⟩]),
  ("Europe/Kirov", [
    ⟨11928, .fixed 0, some ⟨1919, 7, .on 1, .universal 0⟩⟩,
    ⟨10800, .fixed 0, some ⟨1930, 6, .on 21, .wall 0⟩⟩,
    ⟨14400, .rules Rules.russia, some ⟨1989, 3, .on 26, .standard 7200⟩⟩,
    ⟨10800, .rules Rules.russia, some ⟨1991, 3, .on 31, .standard 7200⟩⟩,
    ⟨14400, .fixed 0, some ⟨1992, 3, .on 29, .standard 7200⟩⟩,
    ⟨10800, .rules Rules.russia, some ⟨2011, 3, .on 27, .standard 7200⟩⟩,
    ⟨14400, .fixed 0, some ⟨2014, 10, .on 26, .standard 7200⟩⟩, ⟨10800, .fixed 0, none⟩]),
  ("Europe/Kyiv", [
    ⟨7324, .fixed 0, some ⟨1880, 1, .on 1, .wall 0⟩⟩,
    ⟨7324, .fixed 0, some ⟨1924, 5, .on 2, .wall 0⟩⟩,
    ⟨7200, .fixed 0, some ⟨1930, 6, .on 21, .wall 0⟩⟩,
    ⟨10800, .fixed 0, some ⟨1941, 9, .on 20, .wall 0⟩⟩,
    ⟨3600, .rules Rules.centralEurope, some ⟨1943, 11, .on 6, .wall 0⟩⟩,
    ⟨10800, .rules Rules.russia, some ⟨1990, 7, .on 1, .wall 7200⟩⟩,
    ⟨7200, .fixed 3600, some ⟨1991, 9, .on 29, .wall 10800⟩⟩,
    ⟨7200, .rules Rules.centralEurope, some ⟨1996, 5, .on 13, .wall 0⟩⟩,
    ⟨7200, .rules Rules.europe, none⟩]),
  ("Europe/Lisbon", [
    ⟨-2205, .fixed 0, some ⟨1884, 1, .on 1, .wall 0⟩⟩,
    ⟨-2205, .fixed 0, some ⟨1912, 1, .on 1, .universal 0⟩⟩,
    ⟨0, .rules Rules.portugal, some ⟨1966, 10, .on 2, .standard 7200⟩⟩,
    ⟨3600, .fixed 0, some ⟨1976, 9, .on 26, .wall 3600⟩⟩,
    ⟨0, .rules Rules.portugal, some ⟨1986, 1, .on 1, .wall 0⟩⟩,
    ⟨0, .rules Rules.europe, some ⟨1992, 9, .on 27, .universal 3600⟩⟩,
    ⟨3600, .rules Rules.europe, some ⟨1996, 3, .on 31, .universal 3600⟩⟩,
    ⟨0, .rules Rules.europe, none⟩]),
  ("Europe/London", [
    ⟨-75, .fixed 0, some ⟨1847, 12, .on 1, .wall 0⟩⟩,
    ⟨0, .rules Rules.britain, some ⟨1968, 10, .on 27, .wall 0⟩⟩,
    ⟨3600, .fixed 0, some ⟨1971, 10, .on 31, .universal 7200⟩⟩,
    ⟨0, .rules Rules.britain, some ⟨1996, 1, .on 1, .wall 0⟩⟩, ⟨0, .rules Rules.europe, none⟩]),
  ("Europe/Madrid", [
    ⟨-884, .fixed 0, some ⟨1901, 1, .on 1, .universal 0⟩⟩,
    ⟨0, .rules Rules.spain, some ⟨1940, 3, .on 16, .wall 82800⟩⟩,
    ⟨3600, .rules Rules.spain, some ⟨1979, 1, .on 1, .wall 0⟩⟩, ⟨3600, .rules Rules.europe, none⟩]),
  ("Europe/Malta", [
    ⟨3484, .fixed 0, some ⟨1893, 11, .on 2, .wall 0⟩⟩,
    ⟨3600, .rules Rules.italy, some ⟨1973, 3, .on 31, .wall 0⟩⟩,
    ⟨3600, .rules Rules.malta, some ⟨1981, 1, .on 1, .wall 0⟩⟩, ⟨3600, .rules Rules.europe, none⟩]),
  ("Europe/Minsk", [
    ⟨6616, .fixed 0, some ⟨1880, 1, .on 1, .wall 0⟩⟩,
    ⟨6600, .fixed 0, some ⟨1924, 5, .on 2, .wall 0⟩⟩,
    ⟨7200, .fixed 0, some ⟨1930, 6, .on 21, .wall 0⟩⟩,
    ⟨10800, .fixed 0, some ⟨1941, 6, .on 28, .wall 0⟩⟩,
    ⟨3600, .rules Rules.centralEurope, some ⟨1944, 7, .on 3, .wall 0⟩⟩,
    ⟨10800, .rules Rules.russia, some ⟨1990, 1, .on 1, .wall 0⟩⟩,
    ⟨10800, .fixed 0, some ⟨1991, 3, .on 31, .standard 7200⟩⟩,
    ⟨7200, .rules Rules.russia, some ⟨2011, 3, .on 27, .standard 7200⟩⟩, ⟨10800, .fixed 0, none⟩]),
  ("Europe/Moscow", [
    ⟨9017, .fixed 0, some ⟨1880, 1, .on 1, .wall 0⟩⟩,
    ⟨9017, .fixed 0, some ⟨1916, 7, .on 3, .wall 0⟩⟩,
    ⟨9079, .rules Rules.russia, some ⟨1919, 7, .on 1, .universal 0⟩⟩,
    ⟨10800, .rules Rules.russia, some ⟨1921, 10, .on 1, .wall 0⟩⟩,
    ⟨10800, .rules Rules.russia, some ⟨1922, 10, .on 1, .wall 0⟩⟩,
    ⟨7200, .fixed 0, some ⟨1930, 6, .on 21, .wall 0⟩⟩,
    ⟨10800, .rules Rules.russia, some ⟨1991, 3, .on 31, .standard 7200⟩⟩,
    ⟨7200, .rules Rules.russia, some ⟨1992, 1, .on 19, .standard 7200⟩⟩,
    ⟨10800, .rules Rules.russia, some ⟨2011, 3, .on 27, .standard 7200⟩⟩,
    ⟨14400, .fixed 0, some ⟨2014, 10, .on 26, .standard 7200⟩⟩, ⟨10800, .fixed 0, none⟩]),
  ("Europe/Paris", [
    ⟨561, .fixed 0, some ⟨1891, 3, .on 16, .wall 0⟩⟩,
    ⟨561, .fixed 0, some ⟨1911, 3, .on 11, .wall 0⟩⟩,
    ⟨0, .rules Rules.france, some ⟨1940, 6, .on 14, .wall 82800⟩⟩,
    ⟨3600, .rules Rules.centralEurope, some ⟨1944, 8, .on 25, .wall 0⟩⟩,
    ⟨0, .rules Rules.france, some ⟨1945, 9, .on 16, .wall 10800⟩⟩,
    ⟨3600, .rules Rules.france, some ⟨1977, 1, .on 1, .wall 0⟩⟩,
    ⟨3600, .rules Rules.europe, none⟩]),
  ("Europe/Prague", [
    ⟨3464, .fixed 0, some ⟨1850, 1, .on 1, .wall 0⟩⟩,
    ⟨3464, .fixed 0, some ⟨1891, 10, .on 1, .wall 0⟩⟩,
    ⟨3600, .rules Rules.centralEurope, some ⟨1945, 5, .on 9, .wall 0⟩⟩,
    ⟨3600, .rules Rules.czechia, some ⟨1946, 12, .on 1, .wall 10800⟩⟩,
    ⟨0, .fixed 0, some ⟨1947, 2, .on 23, .wall 7200⟩⟩,
    ⟨3600, .rules Rules.czechia, some ⟨1979, 1, .on 1, .wall 0⟩⟩,
    ⟨3600, .rules Rules.europe, none⟩]),
  ("Europe/Riga", [
    ⟨5794, .fixed 0, some ⟨1880, 1, .on 1, .wall 0⟩⟩,
    ⟨5794, .fixed 0, some ⟨1918, 4, .on 15, .wall 7200⟩⟩,
    ⟨5794, .fixed 3600, some ⟨1918, 9, .on 16, .wall 10800⟩⟩,
    ⟨5794, .fixed 0, some ⟨1919, 4, .on 1, .wall 7200⟩⟩,
    ⟨5794, .fixed 3600, some ⟨1919, 5, .on 22, .wall 10800⟩⟩,
    ⟨5794, .fixed 0, some ⟨1926, 5, .on 11, .wall 0⟩⟩,
    ⟨7200, .fixed 0, some ⟨1940, 8, .on 5, .wall 0⟩⟩,
    ⟨10800, .fixed 0, some ⟨1941, 7, .on 1, .wall 0⟩⟩,
    ⟨3600, .rules Rules.centralEurope, some ⟨1944, 10, .on 13, .wall 0⟩⟩,
    ⟨10800, .rules Rules.russia, some ⟨1989, 3, .last 6, .standard 7200⟩⟩,
    ⟨7200, .fixed 3600, some ⟨1989, 9, .last 6, .standard 7200⟩⟩,
    ⟨7200, .rules Rules.latvia, some ⟨1997, 1, .on 21, .wall 0⟩⟩,
    ⟨7200, .rules Rules.europe, some ⟨2000, 2, .on 29, .wall 0⟩⟩,
    ⟨7200, .fixed 0, some ⟨2001, 1, .on 2, .wall 0⟩⟩, ⟨7200, .rules Rules.europe, none⟩]),
  ("Europe/Rome", [
    ⟨2996, .fixed 0, some ⟨1866, 12, .on 12, .wall 0⟩⟩,
    ⟨2996, .fixed 0, some ⟨1893, 10, .on 31, .universal 82800⟩⟩,
    ⟨3600, .rules Rules.italy, some ⟨1943, 9, .on 10, .wall 0⟩⟩,
    ⟨3600, .rules Rules.centralEurope, some ⟨1944, 6, .on 4, .wall 0⟩⟩,
    ⟨3600, .rules Rules.italy, some ⟨1980, 1, .on 1, .wall 0⟩⟩, ⟨3600, .rules Rules.europe, none⟩]),
  ("Europe/Samara", [
    ⟨12020, .fixed 0, some ⟨1919, 7, .on 1, .universal 0⟩⟩,
    ⟨10800, .fixed 0, some ⟨1930, 6, .on 21, .wall 0⟩⟩,
    ⟨14400, .fixed 0, some ⟨1935, 1, .on 27, .wall 0⟩⟩,
    ⟨14400, .rules Rules.russia, some ⟨1989, 3, .on 26, .standard 7200⟩⟩,
    ⟨10800, .rules Rules.russia, some ⟨1991, 3, .on 31, .standard 7200⟩⟩,
    ⟨7200, .rules Rules.russia, some ⟨1991, 9, .on 29, .standard 7200⟩⟩,
    ⟨10800, .fixed 0, some ⟨1991, 10, .on 20, .wall 10800⟩⟩,
    ⟨14400, .rules Rules.russia, some ⟨2010, 3, .on 28, .standard 7200⟩⟩,
    ⟨10800, .rules Rules.russia, some ⟨2011, 3, .on 27, .standard 7200⟩⟩, ⟨14400, .fixed 0, none⟩]),
  ("Europe/Saratov", [
    ⟨11058, .fixed 0, some ⟨1919, 7, .on 1, .universal 0⟩⟩,
    ⟨10800, .fixed 0, some ⟨1930, 6, .on 21, .wall 0⟩⟩,
    ⟨14400, .rules Rules.russia, some ⟨1988, 3, .on 27, .standard 7200⟩⟩,
    ⟨10800, .rules Rules.russia, some ⟨1991, 3, .on 31, .standard 7200⟩⟩,
    ⟨14400, .fixed 0, some ⟨1992, 3, .on 29, .standard 7200⟩⟩,
    ⟨10800, .rules Rules.russia, some ⟨2011, 3, .on 27, .standard 7200⟩⟩,
    ⟨14400, .fixed 0, some ⟨2014, 10, .on 26, .standard 7200⟩⟩,
    ⟨10800, .fixed 0, some ⟨2016, 12, .on 4, .standard 7200⟩⟩, ⟨14400, .fixed 0, none⟩]),
  ("Europe/Simferopol", [
    ⟨8184, .fixed 0, some ⟨1880, 1, .on 1, .wall 0⟩⟩,
    ⟨8160, .fixed 0, some ⟨1924, 5, .on 2, .wall 0⟩⟩,
    ⟨7200, .fixed 0, some ⟨1930, 6, .on 21, .wall 0⟩⟩,
    ⟨10800, .fixed 0, some ⟨1941, 11, .on 1, .wall 0⟩⟩,
    ⟨3600, .rules Rules.centralEurope, some ⟨1944, 4, .on 13, .wall 0⟩⟩,
    ⟨10800, .rules Rules.russia, some ⟨1990, 1, .on 1, .wall 0⟩⟩,
    ⟨10800, .fixed 0, some ⟨1990, 7, .on 1, .wall 7200⟩⟩,
    ⟨7200, .fixed 0, some ⟨1992, 3, .on 20, .wall 0⟩⟩,
    ⟨7200, .rules Rules.centralEurope, some ⟨1994, 5, .on 1, .wall 0⟩⟩,
    ⟨10800, .rules Rules.centralEurope, some ⟨1996, 3, .on 31, .standard 0⟩⟩,
    ⟨10800, .fixed 3600, some ⟨1996, 10, .on 27, .standard 10800⟩⟩,
    ⟨10800, .fixed 0, some ⟨1997, 3, .last 6, .universal 3600⟩⟩,
    ⟨7200, .rules Rules.europe, some ⟨2014, 3, .on 30, .wall 7200⟩⟩,
    ⟨14400, .fixed 0, some ⟨2014, 10, .on 26, .standard 7200⟩⟩, ⟨10800, .fixed 0, none⟩]),
  ("Europe/Sofia", [
    ⟨5596, .fixed 0, some ⟨1880, 1, .on 1, .wall 0⟩⟩,
    ⟨7016, .fixed 0, some ⟨1894, 11, .on 30, .wall 0⟩⟩,
    ⟨7200, .fixed 0, some ⟨1942, 11, .on 2, .wall 10800⟩⟩,
    ⟨3600, .rules Rules.centralEurope, some ⟨1945, 1, .on 1, .wall 0⟩⟩,
    ⟨3600, .fixed 0, some ⟨1945, 4, .on 2, .wall 10800⟩⟩,
    ⟨7200, .fixed 0, some ⟨1979, 3, .on 31, .wall 82800⟩⟩,
    ⟨7200, .rules Rules.bulgaria, some ⟨1982, 9, .on 26, .wall 10800⟩⟩,
    ⟨7200, .rules Rules.centralEurope, some ⟨1991, 1, .on 1, .wall 0⟩⟩,
    ⟨7200, .rules Rules.eastEurope, some ⟨1997, 1, .on 1, .wall 0⟩⟩,
    ⟨7200, .rules Rules.europe, none⟩]),
  ("Europe/Tallinn", [
    ⟨5940, .fixed 0, some ⟨1880, 1, .on 1, .wall 0⟩⟩,
    ⟨5940, .fixed 0, some ⟨1918, 2, .on 1, .wall 0⟩⟩,
    ⟨3600, .rules Rules.centralEurope, some ⟨1919, 7, .on 1, .wall 0⟩⟩,
    ⟨5940, .fixed 0, some ⟨1921, 5, .on 1, .wall 0⟩⟩,
    ⟨7200, .fixed 0, some ⟨1940, 8, .on 6, .wall 0⟩⟩,
    ⟨10800, .fixed 0, some ⟨1941, 9, .on 15, .wall 0⟩⟩,
    ⟨3600, .rules Rules.centralEurope, some ⟨1944, 9, .on 22, .wall 0⟩⟩,
    ⟨10800, .rules Rules.russia, some ⟨1989, 3, .on 26, .standard 7200⟩⟩,
    ⟨7200, .fixed 3600, some ⟨1989, 9, .on 24, .standard 7200⟩⟩,
    ⟨7200, .rules Rules.centralEurope, some ⟨1998, 9, .on 22, .wall 0⟩⟩,
    ⟨7200, .rules Rules.europe, some ⟨1999, 10, .on 31, .wall 14400⟩⟩,
    ⟨7200, .fixed 0, some ⟨2002, 2, .on 21, .wall 0⟩⟩, ⟨7200, .rules Rules.europe, none⟩]),
  ("Europe/Tirane", [
    ⟨4760, .fixed 0, some ⟨1914, 1, .on 1, .wall 0⟩⟩,
    ⟨3600, .fixed 0, some ⟨1940, 6, .on 16, .wall 0⟩⟩,
    ⟨3600, .rules Rules.albania, some ⟨1984, 7, .on 1, .wall 0⟩⟩,
    ⟨3600, .rules Rules.europe, none⟩]),
  ("Europe/Ulyanovsk", [
    ⟨11616, .fixed 0, some ⟨1919, 7, .on 1, .universal 0⟩⟩,
    ⟨10800, .fixed 0, some ⟨1930, 6, .on 21, .wall 0⟩⟩,
    ⟨14400, .rules Rules.russia, some ⟨1989, 3, .on 26, .standard 7200⟩⟩,
    ⟨10800, .rules Rules.russia, some ⟨1991, 3, .on 31, .standard 7200⟩⟩,
    ⟨7200, .rules Rules.russia, some ⟨1992, 1, .on 19, .standard 7200⟩⟩,
    ⟨10800, .rules Rules.russia, some ⟨2011, 3, .on 27, .standard 7200⟩⟩,
    ⟨14400, .fixed 0, some ⟨2014, 10, .on 26, .standard 7200⟩⟩,
    ⟨10800, .fixed 0, some ⟨2016, 3, .on 27, .standard 7200⟩⟩, ⟨14400, .fixed 0, none⟩]),
  ("Europe/Vienna", [
    ⟨3921, .fixed 0, some ⟨1893, 4, .on 1, .wall 0⟩⟩,
    ⟨3600, .rules Rules.centralEurope, some ⟨1920, 1, .on 1, .wall 0⟩⟩,
    ⟨3600, .rules Rules.austria, some ⟨1940, 4, .on 1, .standard 7200⟩⟩,
    ⟨3600, .rules Rules.centralEurope, some ⟨1945, 4, .on 2, .standard 7200⟩⟩,
    ⟨3600, .fixed 3600, some ⟨1945, 4, .on 12, .standard 7200⟩⟩,
    ⟨3600, .fixed 0, some ⟨1946, 1, .on 1, .wall 0⟩⟩,
    ⟨3600, .rules Rules.austria, some ⟨1981, 1, .on 1, .wall 0⟩⟩,
    ⟨3600, .rules Rules.europe, none⟩]),
  ("Europe/Vilnius", [
    ⟨6076, .fixed 0, some ⟨1880, 1, .on 1, .wall 0⟩⟩,
    ⟨5040, .fixed 0, some ⟨1917, 1, .on 1, .wall 0⟩⟩,
    ⟨5736, .fixed 0, some ⟨1919, 10, .on 10, .wall 0⟩⟩,
    ⟨3600, .fixed 0, some ⟨1920, 7, .on 12, .wall 0⟩⟩,
    ⟨7200, .fixed 0, some ⟨1920, 10, .on 9, .wall 0⟩⟩,
    ⟨3600, .fixed 0, some ⟨1940, 8, .on 3, .wall 0⟩⟩,
    ⟨10800, .fixed 0, some ⟨1941, 6, .on 24, .wall 0⟩⟩,
    ⟨3600, .rules Rules.centralEurope, some ⟨1944, 8, .on 1, .wall 0⟩⟩,
    ⟨10800, .rules Rules.russia, some ⟨1989, 3, .on 26, .standard 7200⟩⟩,
    ⟨7200, .rules Rules.russia, some ⟨1991, 9, .on 29, .standard 7200⟩⟩,
    ⟨7200, .rules Rules.centralEurope, some ⟨1998, 1, .on 1, .wall 0⟩⟩,
    ⟨7200, .fixed 0, some ⟨1998, 3, .on 29, .universal 3600⟩⟩,
    ⟨3600, .rules Rules.europe, some ⟨1999, 10, .on 31, .universal 3600⟩⟩,
    ⟨7200, .fixed 0, some ⟨2003, 1, .on 1, .wall 0⟩⟩, ⟨7200, .rules Rules.europe, none⟩]),
  ("Europe/Volgograd", [
    ⟨10660, .fixed 0, some ⟨1920, 1, .on 3, .wall 0⟩⟩,
    ⟨10800, .fixed 0, some ⟨1930, 6, .on 21, .wall 0⟩⟩,
    ⟨14400, .fixed 0, some ⟨1961, 11, .on 11, .wall 0⟩⟩,
    ⟨14400, .rules Rules.russia, some ⟨1988, 3, .on 27, .standard 7200⟩⟩,
    ⟨10800, .rules Rules.russia, some ⟨1991, 3, .on 31, .standard 7200⟩⟩,
    ⟨14400, .fixed 0, some ⟨1992, 3, .on 29, .standard 7200⟩⟩,
    ⟨10800, .rules Rules.russia, some ⟨2011, 3, .on 27, .standard 7200⟩⟩,
    ⟨14400, .fixed 0, some ⟨2014, 10, .on 26, .standard 7200⟩⟩,
    ⟨10800, .fixed 0, some ⟨2018, 10, .on 28, .standard 7200⟩⟩,
    ⟨14400, .fixed 0, some ⟨2020, 12, .on 27, .standard 7200⟩⟩, ⟨10800, .fixed 0, none⟩]),
  ("Europe/Warsaw", [
    ⟨5040, .fixed 0, some ⟨1880, 1, .on 1, .wall 0⟩⟩,
    ⟨5040, .fixed 0, some ⟨1915, 8, .on 5, .wall 0⟩⟩,
    ⟨3600, .rules Rules.centralEurope, some ⟨1918, 9, .on 16, .wall 10800⟩⟩,
    ⟨7200, .rules Rules.poland, some ⟨1922, 6, .on 1, .wall 0⟩⟩,
    ⟨3600, .rules Rules.poland, some ⟨1940, 6, .on 23, .wall 7200⟩⟩,
    ⟨3600, .rules Rules.centralEurope, some ⟨1944, 10, .on 1, .wall 0⟩⟩,
    ⟨3600, .rules Rules.poland, some ⟨1977, 1, .on 1, .wall 0⟩⟩,
    ⟨3600, .rules Rules.westEurope, some ⟨1988, 1, .on 1, .wall 0⟩⟩,
    ⟨3600, .rules Rules.europe, none⟩]),
  ("Europe/Zurich", [
    ⟨2048, .fixed 0, some ⟨1853, 7, .on 16, .wall 0⟩⟩,
    ⟨1786, .fixed 0, some ⟨1894, 6, .on 1, .wall 0⟩⟩,
    ⟨3600, .rules Rules.switzerland, some ⟨1981, 1, .on 1, .wall 0⟩⟩,
    ⟨3600, .rules Rules.europe, none⟩])]

end ForeignLayer.Calendar.Zones
