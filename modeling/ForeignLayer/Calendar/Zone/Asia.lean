import ForeignLayer.Calendar.Zone.Rules.Africa
import ForeignLayer.Calendar.Zone.Rules.Asia
import ForeignLayer.Calendar.Zone.Rules.Europe

/-!
# Time zones of Asia

The histories of the zones, from the public record of time zones.
-/

namespace ForeignLayer.Calendar.Zones

/-- The names and the histories of the zones. -/
def asia : List (String × History) := [
  ("Asia/Almaty", [
    ⟨18468, .fixed 0, some ⟨1924, 5, .on 2, .wall 0⟩⟩,
    ⟨18000, .fixed 0, some ⟨1930, 6, .on 21, .wall 0⟩⟩,
    ⟨21600, .rules Rules.russia, some ⟨1991, 3, .on 31, .standard 7200⟩⟩,
    ⟨18000, .rules Rules.russia, some ⟨1992, 1, .on 19, .standard 7200⟩⟩,
    ⟨21600, .rules Rules.russia, some ⟨2004, 10, .on 31, .standard 7200⟩⟩,
    ⟨21600, .fixed 0, some ⟨2024, 3, .on 1, .wall 0⟩⟩, ⟨18000, .fixed 0, none⟩]),
  ("Asia/Amman", [
    ⟨8624, .fixed 0, some ⟨1931, 1, .on 1, .wall 0⟩⟩,
    ⟨7200, .rules Rules.jordan, some ⟨2022, 10, .on 28, .standard 0⟩⟩, ⟨10800, .fixed 0, none⟩]),
  ("Asia/Anadyr", [
    ⟨42596, .fixed 0, some ⟨1924, 5, .on 2, .wall 0⟩⟩,
    ⟨43200, .fixed 0, some ⟨1930, 6, .on 21, .wall 0⟩⟩,
    ⟨46800, .rules Rules.russia, some ⟨1982, 4, .on 1, .standard 0⟩⟩,
    ⟨43200, .rules Rules.russia, some ⟨1991, 3, .on 31, .standard 7200⟩⟩,
    ⟨39600, .rules Rules.russia, some ⟨1992, 1, .on 19, .standard 7200⟩⟩,
    ⟨43200, .rules Rules.russia, some ⟨2010, 3, .on 28, .standard 7200⟩⟩,
    ⟨39600, .rules Rules.russia, some ⟨2011, 3, .on 27, .standard 7200⟩⟩, ⟨43200, .fixed 0, none⟩]),
  ("Asia/Aqtau", [
    ⟨12064, .fixed 0, some ⟨1924, 5, .on 2, .wall 0⟩⟩,
    ⟨14400, .fixed 0, some ⟨1930, 6, .on 21, .wall 0⟩⟩,
    ⟨18000, .fixed 0, some ⟨1981, 10, .on 1, .wall 0⟩⟩,
    ⟨21600, .fixed 0, some ⟨1982, 4, .on 1, .wall 0⟩⟩,
    ⟨18000, .rules Rules.russia, some ⟨1991, 3, .on 31, .standard 7200⟩⟩,
    ⟨14400, .rules Rules.russia, some ⟨1992, 1, .on 19, .standard 7200⟩⟩,
    ⟨18000, .rules Rules.russia, some ⟨1994, 9, .on 25, .standard 7200⟩⟩,
    ⟨14400, .rules Rules.russia, some ⟨2004, 10, .on 31, .standard 7200⟩⟩,
    ⟨18000, .fixed 0, none⟩]),
  ("Asia/Aqtobe", [
    ⟨13720, .fixed 0, some ⟨1924, 5, .on 2, .wall 0⟩⟩,
    ⟨14400, .fixed 0, some ⟨1930, 6, .on 21, .wall 0⟩⟩,
    ⟨18000, .fixed 0, some ⟨1981, 4, .on 1, .wall 0⟩⟩,
    ⟨18000, .fixed 3600, some ⟨1981, 10, .on 1, .wall 0⟩⟩,
    ⟨21600, .fixed 0, some ⟨1982, 4, .on 1, .wall 0⟩⟩,
    ⟨18000, .rules Rules.russia, some ⟨1991, 3, .on 31, .standard 7200⟩⟩,
    ⟨14400, .rules Rules.russia, some ⟨1992, 1, .on 19, .standard 7200⟩⟩,
    ⟨18000, .rules Rules.russia, some ⟨2004, 10, .on 31, .standard 7200⟩⟩,
    ⟨18000, .fixed 0, none⟩]),
  ("Asia/Ashgabat", [
    ⟨14012, .fixed 0, some ⟨1924, 5, .on 2, .wall 0⟩⟩,
    ⟨14400, .fixed 0, some ⟨1930, 6, .on 21, .wall 0⟩⟩,
    ⟨18000, .rules Rules.russia, some ⟨1991, 3, .on 31, .wall 7200⟩⟩,
    ⟨14400, .rules Rules.russia, some ⟨1992, 1, .on 19, .wall 7200⟩⟩, ⟨18000, .fixed 0, none⟩]),
  ("Asia/Atyrau", [
    ⟨12464, .fixed 0, some ⟨1924, 5, .on 2, .wall 0⟩⟩,
    ⟨10800, .fixed 0, some ⟨1930, 6, .on 21, .wall 0⟩⟩,
    ⟨18000, .fixed 0, some ⟨1981, 10, .on 1, .wall 0⟩⟩,
    ⟨21600, .fixed 0, some ⟨1982, 4, .on 1, .wall 0⟩⟩,
    ⟨18000, .rules Rules.russia, some ⟨1991, 3, .on 31, .standard 7200⟩⟩,
    ⟨14400, .rules Rules.russia, some ⟨1992, 1, .on 19, .standard 7200⟩⟩,
    ⟨18000, .rules Rules.russia, some ⟨1999, 3, .on 28, .standard 7200⟩⟩,
    ⟨14400, .rules Rules.russia, some ⟨2004, 10, .on 31, .standard 7200⟩⟩,
    ⟨18000, .fixed 0, none⟩]),
  ("Asia/Baghdad", [
    ⟨10660, .fixed 0, some ⟨1890, 1, .on 1, .wall 0⟩⟩,
    ⟨10656, .fixed 0, some ⟨1918, 1, .on 1, .wall 0⟩⟩,
    ⟨10800, .fixed 0, some ⟨1982, 5, .on 1, .wall 0⟩⟩, ⟨10800, .rules Rules.iraq, none⟩]),
  ("Asia/Baku", [
    ⟨11964, .fixed 0, some ⟨1924, 5, .on 2, .wall 0⟩⟩,
    ⟨10800, .fixed 0, some ⟨1957, 3, .on 1, .wall 0⟩⟩,
    ⟨14400, .rules Rules.russia, some ⟨1991, 3, .on 31, .standard 7200⟩⟩,
    ⟨10800, .rules Rules.russia, some ⟨1992, 9, .last 6, .standard 7200⟩⟩,
    ⟨14400, .fixed 0, some ⟨1996, 1, .on 1, .wall 0⟩⟩,
    ⟨14400, .rules Rules.europe, some ⟨1997, 1, .on 1, .wall 0⟩⟩,
    ⟨14400, .rules Rules.azerbaijan, none⟩]),
  ("Asia/Bangkok", [
    ⟨24124, .fixed 0, some ⟨1880, 1, .on 1, .wall 0⟩⟩,
    ⟨24124, .fixed 0, some ⟨1920, 4, .on 1, .wall 0⟩⟩, ⟨25200, .fixed 0, none⟩]),
  ("Asia/Barnaul", [
    ⟨20100, .fixed 0, some ⟨1919, 12, .on 10, .wall 0⟩⟩,
    ⟨21600, .fixed 0, some ⟨1930, 6, .on 21, .wall 0⟩⟩,
    ⟨25200, .rules Rules.russia, some ⟨1991, 3, .on 31, .standard 7200⟩⟩,
    ⟨21600, .rules Rules.russia, some ⟨1992, 1, .on 19, .standard 7200⟩⟩,
    ⟨25200, .rules Rules.russia, some ⟨1995, 5, .on 28, .wall 0⟩⟩,
    ⟨21600, .rules Rules.russia, some ⟨2011, 3, .on 27, .standard 7200⟩⟩,
    ⟨25200, .fixed 0, some ⟨2014, 10, .on 26, .standard 7200⟩⟩,
    ⟨21600, .fixed 0, some ⟨2016, 3, .on 27, .standard 7200⟩⟩, ⟨25200, .fixed 0, none⟩]),
  ("Asia/Beirut", [
    ⟨8520, .fixed 0, some ⟨1880, 1, .on 1, .wall 0⟩⟩, ⟨7200, .rules Rules.lebanon, none⟩]),
  ("Asia/Bishkek", [
    ⟨17904, .fixed 0, some ⟨1924, 5, .on 2, .wall 0⟩⟩,
    ⟨18000, .fixed 0, some ⟨1930, 6, .on 21, .wall 0⟩⟩,
    ⟨21600, .rules Rules.russia, some ⟨1991, 3, .on 31, .standard 7200⟩⟩,
    ⟨18000, .rules Rules.russia, some ⟨1991, 8, .on 31, .wall 7200⟩⟩,
    ⟨18000, .rules Rules.kyrgyzstan, some ⟨2005, 8, .on 12, .wall 0⟩⟩, ⟨21600, .fixed 0, none⟩]),
  ("Asia/Chita", [
    ⟨27232, .fixed 0, some ⟨1919, 12, .on 15, .wall 0⟩⟩,
    ⟨28800, .fixed 0, some ⟨1930, 6, .on 21, .wall 0⟩⟩,
    ⟨32400, .rules Rules.russia, some ⟨1991, 3, .on 31, .standard 7200⟩⟩,
    ⟨28800, .rules Rules.russia, some ⟨1992, 1, .on 19, .standard 7200⟩⟩,
    ⟨32400, .rules Rules.russia, some ⟨2011, 3, .on 27, .standard 7200⟩⟩,
    ⟨36000, .fixed 0, some ⟨2014, 10, .on 26, .standard 7200⟩⟩,
    ⟨28800, .fixed 0, some ⟨2016, 3, .on 27, .wall 7200⟩⟩, ⟨32400, .fixed 0, none⟩]),
  ("Asia/Colombo", [
    ⟨19164, .fixed 0, some ⟨1880, 1, .on 1, .wall 0⟩⟩,
    ⟨19172, .fixed 0, some ⟨1906, 1, .on 1, .wall 0⟩⟩,
    ⟨19800, .fixed 0, some ⟨1942, 1, .on 5, .wall 0⟩⟩,
    ⟨19800, .fixed 1800, some ⟨1942, 9, .on 1, .wall 0⟩⟩,
    ⟨19800, .fixed 3600, some ⟨1945, 10, .on 16, .wall 7200⟩⟩,
    ⟨19800, .fixed 0, some ⟨1996, 5, .on 25, .wall 0⟩⟩,
    ⟨23400, .fixed 0, some ⟨1996, 10, .on 26, .wall 1800⟩⟩,
    ⟨21600, .fixed 0, some ⟨2006, 4, .on 15, .wall 1800⟩⟩, ⟨19800, .fixed 0, none⟩]),
  ("Asia/Damascus", [
    ⟨8712, .fixed 0, some ⟨1920, 1, .on 1, .wall 0⟩⟩,
    ⟨7200, .rules Rules.syria, some ⟨2022, 10, .on 28, .wall 0⟩⟩, ⟨10800, .fixed 0, none⟩]),
  ("Asia/Dhaka", [
    ⟨21700, .fixed 0, some ⟨1890, 1, .on 1, .wall 0⟩⟩,
    ⟨21200, .fixed 0, some ⟨1941, 10, .on 1, .wall 0⟩⟩,
    ⟨23400, .fixed 0, some ⟨1942, 5, .on 15, .wall 0⟩⟩,
    ⟨19800, .fixed 0, some ⟨1942, 9, .on 1, .wall 0⟩⟩,
    ⟨23400, .fixed 0, some ⟨1951, 9, .on 30, .wall 0⟩⟩,
    ⟨21600, .fixed 0, some ⟨2009, 1, .on 1, .wall 0⟩⟩, ⟨21600, .rules Rules.bangladesh, none⟩]),
  ("Asia/Dili", [
    ⟨30140, .fixed 0, some ⟨1911, 12, .on 31, .universal 57600⟩⟩,
    ⟨28800, .fixed 0, some ⟨1942, 2, .on 21, .wall 82800⟩⟩,
    ⟨32400, .fixed 0, some ⟨1976, 5, .on 3, .wall 0⟩⟩,
    ⟨28800, .fixed 0, some ⟨2000, 9, .on 17, .wall 0⟩⟩, ⟨32400, .fixed 0, none⟩]),
  ("Asia/Dubai", [
    ⟨13272, .fixed 0, some ⟨1920, 1, .on 1, .wall 0⟩⟩, ⟨14400, .fixed 0, none⟩]),
  ("Asia/Dushanbe", [
    ⟨16512, .fixed 0, some ⟨1924, 5, .on 2, .wall 0⟩⟩,
    ⟨18000, .fixed 0, some ⟨1930, 6, .on 21, .wall 0⟩⟩,
    ⟨21600, .rules Rules.russia, some ⟨1991, 3, .on 31, .standard 7200⟩⟩,
    ⟨18000, .fixed 3600, some ⟨1991, 9, .on 9, .standard 7200⟩⟩, ⟨18000, .fixed 0, none⟩]),
  ("Asia/Famagusta", [
    ⟨8148, .fixed 0, some ⟨1921, 11, .on 14, .wall 0⟩⟩,
    ⟨7200, .rules Rules.cyprus, some ⟨1998, 9, .on 1, .wall 0⟩⟩,
    ⟨7200, .rules Rules.europe, some ⟨2016, 9, .on 8, .wall 0⟩⟩,
    ⟨10800, .fixed 0, some ⟨2017, 10, .on 29, .universal 3600⟩⟩,
    ⟨7200, .rules Rules.europe, none⟩]),
  ("Asia/Gaza", [
    ⟨8272, .fixed 0, some ⟨1900, 10, .on 1, .wall 0⟩⟩,
    ⟨7200, .rules Rules.israel, some ⟨1948, 5, .on 15, .wall 0⟩⟩,
    ⟨7200, .rules Rules.egypt, some ⟨1967, 6, .on 5, .wall 0⟩⟩,
    ⟨7200, .rules Rules.israel, some ⟨1996, 1, .on 1, .wall 0⟩⟩,
    ⟨7200, .rules Rules.jordan, some ⟨1999, 1, .on 1, .wall 0⟩⟩,
    ⟨7200, .rules Rules.palestine, some ⟨2008, 8, .on 29, .wall 0⟩⟩,
    ⟨7200, .fixed 0, some ⟨2008, 9, .on 1, .wall 0⟩⟩,
    ⟨7200, .rules Rules.palestine, some ⟨2010, 1, .on 1, .wall 0⟩⟩,
    ⟨7200, .fixed 0, some ⟨2010, 3, .on 27, .wall 60⟩⟩,
    ⟨7200, .rules Rules.palestine, some ⟨2011, 8, .on 1, .wall 0⟩⟩,
    ⟨7200, .fixed 0, some ⟨2012, 1, .on 1, .wall 0⟩⟩, ⟨7200, .rules Rules.palestine, none⟩]),
  ("Asia/Hebron", [
    ⟨8423, .fixed 0, some ⟨1900, 10, .on 1, .wall 0⟩⟩,
    ⟨7200, .rules Rules.israel, some ⟨1948, 5, .on 15, .wall 0⟩⟩,
    ⟨7200, .rules Rules.egypt, some ⟨1967, 6, .on 5, .wall 0⟩⟩,
    ⟨7200, .rules Rules.israel, some ⟨1996, 1, .on 1, .wall 0⟩⟩,
    ⟨7200, .rules Rules.jordan, some ⟨1999, 1, .on 1, .wall 0⟩⟩,
    ⟨7200, .rules Rules.palestine, none⟩]),
  ("Asia/Ho_Chi_Minh", [
    ⟨25590, .fixed 0, some ⟨1906, 7, .on 1, .wall 0⟩⟩,
    ⟨25590, .fixed 0, some ⟨1911, 5, .on 1, .wall 0⟩⟩,
    ⟨25200, .fixed 0, some ⟨1942, 12, .on 31, .wall 82800⟩⟩,
    ⟨28800, .fixed 0, some ⟨1945, 3, .on 14, .wall 82800⟩⟩,
    ⟨32400, .fixed 0, some ⟨1945, 9, .on 1, .wall 86400⟩⟩,
    ⟨25200, .fixed 0, some ⟨1947, 4, .on 1, .wall 0⟩⟩,
    ⟨28800, .fixed 0, some ⟨1955, 7, .on 1, .wall 3600⟩⟩,
    ⟨25200, .fixed 0, some ⟨1959, 12, .on 31, .wall 82800⟩⟩,
    ⟨28800, .fixed 0, some ⟨1975, 6, .on 13, .wall 0⟩⟩, ⟨25200, .fixed 0, none⟩]),
  ("Asia/Hong_Kong", [
    ⟨27402, .fixed 0, some ⟨1904, 10, .on 29, .universal 61200⟩⟩,
    ⟨28800, .fixed 0, some ⟨1941, 6, .on 15, .wall 10800⟩⟩,
    ⟨28800, .fixed 3600, some ⟨1941, 10, .on 1, .wall 14400⟩⟩,
    ⟨28800, .fixed 1800, some ⟨1941, 12, .on 25, .wall 0⟩⟩,
    ⟨32400, .fixed 0, some ⟨1945, 11, .on 18, .wall 7200⟩⟩, ⟨28800, .rules Rules.hongKong, none⟩]),
  ("Asia/Hovd", [
    ⟨21996, .fixed 0, some ⟨1905, 8, .on 1, .wall 0⟩⟩,
    ⟨21600, .fixed 0, some ⟨1978, 1, .on 1, .wall 0⟩⟩, ⟨25200, .rules Rules.mongolia, none⟩]),
  ("Asia/Irkutsk", [
    ⟨25025, .fixed 0, some ⟨1880, 1, .on 1, .wall 0⟩⟩,
    ⟨25025, .fixed 0, some ⟨1920, 1, .on 25, .wall 0⟩⟩,
    ⟨25200, .fixed 0, some ⟨1930, 6, .on 21, .wall 0⟩⟩,
    ⟨28800, .rules Rules.russia, some ⟨1991, 3, .on 31, .standard 7200⟩⟩,
    ⟨25200, .rules Rules.russia, some ⟨1992, 1, .on 19, .standard 7200⟩⟩,
    ⟨28800, .rules Rules.russia, some ⟨2011, 3, .on 27, .standard 7200⟩⟩,
    ⟨32400, .fixed 0, some ⟨2014, 10, .on 26, .standard 7200⟩⟩, ⟨28800, .fixed 0, none⟩]),
  ("Asia/Jakarta", [
    ⟨25632, .fixed 0, some ⟨1867, 8, .on 10, .wall 0⟩⟩,
    ⟨25632, .fixed 0, some ⟨1923, 12, .on 31, .universal 60000⟩⟩,
    ⟨26400, .fixed 0, some ⟨1932, 11, .on 1, .wall 0⟩⟩,
    ⟨27000, .fixed 0, some ⟨1942, 3, .on 23, .wall 0⟩⟩,
    ⟨32400, .fixed 0, some ⟨1945, 9, .on 23, .wall 0⟩⟩,
    ⟨27000, .fixed 0, some ⟨1948, 5, .on 1, .wall 0⟩⟩,
    ⟨28800, .fixed 0, some ⟨1950, 5, .on 1, .wall 0⟩⟩,
    ⟨27000, .fixed 0, some ⟨1964, 1, .on 1, .wall 0⟩⟩, ⟨25200, .fixed 0, none⟩]),
  ("Asia/Jayapura", [
    ⟨33768, .fixed 0, some ⟨1932, 11, .on 1, .wall 0⟩⟩,
    ⟨32400, .fixed 0, some ⟨1944, 9, .on 1, .wall 0⟩⟩,
    ⟨34200, .fixed 0, some ⟨1964, 1, .on 1, .wall 0⟩⟩, ⟨32400, .fixed 0, none⟩]),
  ("Asia/Jerusalem", [
    ⟨8454, .fixed 0, some ⟨1880, 1, .on 1, .wall 0⟩⟩,
    ⟨8440, .fixed 0, some ⟨1918, 1, .on 1, .wall 0⟩⟩, ⟨7200, .rules Rules.israel, none⟩]),
  ("Asia/Kabul", [
    ⟨16608, .fixed 0, some ⟨1890, 1, .on 1, .wall 0⟩⟩,
    ⟨14400, .fixed 0, some ⟨1945, 1, .on 1, .wall 0⟩⟩, ⟨16200, .fixed 0, none⟩]),
  ("Asia/Kamchatka", [
    ⟨38076, .fixed 0, some ⟨1922, 11, .on 10, .wall 0⟩⟩,
    ⟨39600, .fixed 0, some ⟨1930, 6, .on 21, .wall 0⟩⟩,
    ⟨43200, .rules Rules.russia, some ⟨1991, 3, .on 31, .standard 7200⟩⟩,
    ⟨39600, .rules Rules.russia, some ⟨1992, 1, .on 19, .standard 7200⟩⟩,
    ⟨43200, .rules Rules.russia, some ⟨2010, 3, .on 28, .standard 7200⟩⟩,
    ⟨39600, .rules Rules.russia, some ⟨2011, 3, .on 27, .standard 7200⟩⟩, ⟨43200, .fixed 0, none⟩]),
  ("Asia/Karachi", [
    ⟨16092, .fixed 0, some ⟨1907, 1, .on 1, .wall 0⟩⟩,
    ⟨19800, .fixed 0, some ⟨1942, 9, .on 1, .wall 0⟩⟩,
    ⟨19800, .fixed 3600, some ⟨1945, 10, .on 15, .wall 0⟩⟩,
    ⟨19800, .fixed 0, some ⟨1951, 9, .on 30, .wall 0⟩⟩,
    ⟨18000, .fixed 0, some ⟨1971, 3, .on 26, .wall 0⟩⟩, ⟨18000, .rules Rules.pakistan, none⟩]),
  ("Asia/Kathmandu", [
    ⟨20476, .fixed 0, some ⟨1920, 1, .on 1, .wall 0⟩⟩,
    ⟨19800, .fixed 0, some ⟨1986, 1, .on 1, .wall 0⟩⟩, ⟨20700, .fixed 0, none⟩]),
  ("Asia/Khandyga", [
    ⟨32533, .fixed 0, some ⟨1919, 12, .on 15, .wall 0⟩⟩,
    ⟨28800, .fixed 0, some ⟨1930, 6, .on 21, .wall 0⟩⟩,
    ⟨32400, .rules Rules.russia, some ⟨1991, 3, .on 31, .standard 7200⟩⟩,
    ⟨28800, .rules Rules.russia, some ⟨1992, 1, .on 19, .standard 7200⟩⟩,
    ⟨32400, .rules Rules.russia, some ⟨2004, 1, .on 1, .wall 0⟩⟩,
    ⟨36000, .rules Rules.russia, some ⟨2011, 3, .on 27, .standard 7200⟩⟩,
    ⟨39600, .fixed 0, some ⟨2011, 9, .on 13, .standard 0⟩⟩,
    ⟨36000, .fixed 0, some ⟨2014, 10, .on 26, .standard 7200⟩⟩, ⟨32400, .fixed 0, none⟩]),
  ("Asia/Kolkata", [
    ⟨21208, .fixed 0, some ⟨1854, 6, .on 28, .wall 0⟩⟩,
    ⟨21200, .fixed 0, some ⟨1870, 1, .on 1, .wall 0⟩⟩,
    ⟨19270, .fixed 0, some ⟨1906, 1, .on 1, .wall 0⟩⟩,
    ⟨19800, .fixed 0, some ⟨1941, 10, .on 1, .wall 0⟩⟩,
    ⟨19800, .fixed 3600, some ⟨1942, 5, .on 15, .wall 0⟩⟩,
    ⟨19800, .fixed 0, some ⟨1942, 9, .on 1, .wall 0⟩⟩,
    ⟨19800, .fixed 3600, some ⟨1945, 10, .on 15, .wall 0⟩⟩, ⟨19800, .fixed 0, none⟩]),
  ("Asia/Krasnoyarsk", [
    ⟨22286, .fixed 0, some ⟨1920, 1, .on 6, .wall 0⟩⟩,
    ⟨21600, .fixed 0, some ⟨1930, 6, .on 21, .wall 0⟩⟩,
    ⟨25200, .rules Rules.russia, some ⟨1991, 3, .on 31, .standard 7200⟩⟩,
    ⟨21600, .rules Rules.russia, some ⟨1992, 1, .on 19, .standard 7200⟩⟩,
    ⟨25200, .rules Rules.russia, some ⟨2011, 3, .on 27, .standard 7200⟩⟩,
    ⟨28800, .fixed 0, some ⟨2014, 10, .on 26, .standard 7200⟩⟩, ⟨25200, .fixed 0, none⟩]),
  ("Asia/Kuching", [
    ⟨26480, .fixed 0, some ⟨1926, 3, .on 1, .wall 0⟩⟩,
    ⟨27000, .fixed 0, some ⟨1933, 1, .on 1, .wall 0⟩⟩,
    ⟨28800, .rules Rules.sarawak, some ⟨1942, 2, .on 16, .wall 0⟩⟩,
    ⟨32400, .fixed 0, some ⟨1945, 9, .on 12, .wall 0⟩⟩, ⟨28800, .fixed 0, none⟩]),
  ("Asia/Macau", [
    ⟨27250, .fixed 0, some ⟨1904, 10, .on 30, .wall 0⟩⟩,
    ⟨28800, .fixed 0, some ⟨1941, 12, .on 21, .wall 82800⟩⟩,
    ⟨32400, .rules Rules.macau, some ⟨1945, 9, .on 30, .wall 86400⟩⟩,
    ⟨28800, .rules Rules.macau, none⟩]),
  ("Asia/Magadan", [
    ⟨36192, .fixed 0, some ⟨1924, 5, .on 2, .wall 0⟩⟩,
    ⟨36000, .fixed 0, some ⟨1930, 6, .on 21, .wall 0⟩⟩,
    ⟨39600, .rules Rules.russia, some ⟨1991, 3, .on 31, .standard 7200⟩⟩,
    ⟨36000, .rules Rules.russia, some ⟨1992, 1, .on 19, .standard 7200⟩⟩,
    ⟨39600, .rules Rules.russia, some ⟨2011, 3, .on 27, .standard 7200⟩⟩,
    ⟨43200, .fixed 0, some ⟨2014, 10, .on 26, .standard 7200⟩⟩,
    ⟨36000, .fixed 0, some ⟨2016, 4, .on 24, .standard 7200⟩⟩, ⟨39600, .fixed 0, none⟩]),
  ("Asia/Makassar", [
    ⟨28656, .fixed 0, some ⟨1920, 1, .on 1, .wall 0⟩⟩,
    ⟨28656, .fixed 0, some ⟨1932, 11, .on 1, .wall 0⟩⟩,
    ⟨28800, .fixed 0, some ⟨1942, 2, .on 9, .wall 0⟩⟩,
    ⟨32400, .fixed 0, some ⟨1945, 9, .on 23, .wall 0⟩⟩, ⟨28800, .fixed 0, none⟩]),
  ("Asia/Manila", [
    ⟨-57368, .fixed 0, some ⟨1844, 12, .on 31, .wall 0⟩⟩,
    ⟨29032, .fixed 0, some ⟨1899, 9, .on 6, .universal 14400⟩⟩,
    ⟨28800, .rules Rules.philippines, some ⟨1942, 2, .on 11, .wall 86400⟩⟩,
    ⟨32400, .fixed 0, some ⟨1945, 3, .on 4, .wall 0⟩⟩, ⟨28800, .rules Rules.philippines, none⟩]),
  ("Asia/Nicosia", [
    ⟨8008, .fixed 0, some ⟨1921, 11, .on 14, .wall 0⟩⟩,
    ⟨7200, .rules Rules.cyprus, some ⟨1998, 9, .on 1, .wall 0⟩⟩,
    ⟨7200, .rules Rules.europe, none⟩]),
  ("Asia/Novokuznetsk", [
    ⟨20928, .fixed 0, some ⟨1924, 5, .on 1, .wall 0⟩⟩,
    ⟨21600, .fixed 0, some ⟨1930, 6, .on 21, .wall 0⟩⟩,
    ⟨25200, .rules Rules.russia, some ⟨1991, 3, .on 31, .standard 7200⟩⟩,
    ⟨21600, .rules Rules.russia, some ⟨1992, 1, .on 19, .standard 7200⟩⟩,
    ⟨25200, .rules Rules.russia, some ⟨2010, 3, .on 28, .standard 7200⟩⟩,
    ⟨21600, .rules Rules.russia, some ⟨2011, 3, .on 27, .standard 7200⟩⟩, ⟨25200, .fixed 0, none⟩]),
  ("Asia/Novosibirsk", [
    ⟨19900, .fixed 0, some ⟨1919, 12, .on 14, .wall 21600⟩⟩,
    ⟨21600, .fixed 0, some ⟨1930, 6, .on 21, .wall 0⟩⟩,
    ⟨25200, .rules Rules.russia, some ⟨1991, 3, .on 31, .standard 7200⟩⟩,
    ⟨21600, .rules Rules.russia, some ⟨1992, 1, .on 19, .standard 7200⟩⟩,
    ⟨25200, .rules Rules.russia, some ⟨1993, 5, .on 23, .wall 0⟩⟩,
    ⟨21600, .rules Rules.russia, some ⟨2011, 3, .on 27, .standard 7200⟩⟩,
    ⟨25200, .fixed 0, some ⟨2014, 10, .on 26, .standard 7200⟩⟩,
    ⟨21600, .fixed 0, some ⟨2016, 7, .on 24, .standard 7200⟩⟩, ⟨25200, .fixed 0, none⟩]),
  ("Asia/Omsk", [
    ⟨17610, .fixed 0, some ⟨1919, 11, .on 14, .wall 0⟩⟩,
    ⟨18000, .fixed 0, some ⟨1930, 6, .on 21, .wall 0⟩⟩,
    ⟨21600, .rules Rules.russia, some ⟨1991, 3, .on 31, .standard 7200⟩⟩,
    ⟨18000, .rules Rules.russia, some ⟨1992, 1, .on 19, .standard 7200⟩⟩,
    ⟨21600, .rules Rules.russia, some ⟨2011, 3, .on 27, .standard 7200⟩⟩,
    ⟨25200, .fixed 0, some ⟨2014, 10, .on 26, .standard 7200⟩⟩, ⟨21600, .fixed 0, none⟩]),
  ("Asia/Oral", [
    ⟨12324, .fixed 0, some ⟨1924, 5, .on 2, .wall 0⟩⟩,
    ⟨10800, .fixed 0, some ⟨1930, 6, .on 21, .wall 0⟩⟩,
    ⟨18000, .fixed 0, some ⟨1981, 4, .on 1, .wall 0⟩⟩,
    ⟨18000, .fixed 3600, some ⟨1981, 10, .on 1, .wall 0⟩⟩,
    ⟨21600, .fixed 0, some ⟨1982, 4, .on 1, .wall 0⟩⟩,
    ⟨18000, .rules Rules.russia, some ⟨1989, 3, .on 26, .standard 7200⟩⟩,
    ⟨14400, .rules Rules.russia, some ⟨1992, 1, .on 19, .standard 7200⟩⟩,
    ⟨18000, .rules Rules.russia, some ⟨1992, 3, .on 29, .standard 7200⟩⟩,
    ⟨14400, .rules Rules.russia, some ⟨2004, 10, .on 31, .standard 7200⟩⟩,
    ⟨18000, .fixed 0, none⟩]),
  ("Asia/Pontianak", [
    ⟨26240, .fixed 0, some ⟨1908, 5, .on 1, .wall 0⟩⟩,
    ⟨26240, .fixed 0, some ⟨1932, 11, .on 1, .wall 0⟩⟩,
    ⟨27000, .fixed 0, some ⟨1942, 1, .on 29, .wall 0⟩⟩,
    ⟨32400, .fixed 0, some ⟨1945, 9, .on 23, .wall 0⟩⟩,
    ⟨27000, .fixed 0, some ⟨1948, 5, .on 1, .wall 0⟩⟩,
    ⟨28800, .fixed 0, some ⟨1950, 5, .on 1, .wall 0⟩⟩,
    ⟨27000, .fixed 0, some ⟨1964, 1, .on 1, .wall 0⟩⟩,
    ⟨28800, .fixed 0, some ⟨1988, 1, .on 1, .wall 0⟩⟩, ⟨25200, .fixed 0, none⟩]),
  ("Asia/Pyongyang", [
    ⟨30180, .fixed 0, some ⟨1908, 4, .on 1, .wall 0⟩⟩,
    ⟨30600, .fixed 0, some ⟨1912, 1, .on 1, .wall 0⟩⟩,
    ⟨32400, .fixed 0, some ⟨1945, 8, .on 24, .wall 0⟩⟩,
    ⟨32400, .fixed 0, some ⟨2015, 8, .on 15, .wall 0⟩⟩,
    ⟨30600, .fixed 0, some ⟨2018, 5, .on 4, .wall 84600⟩⟩, ⟨32400, .fixed 0, none⟩]),
  ("Asia/Qatar", [
    ⟨12368, .fixed 0, some ⟨1920, 1, .on 1, .wall 0⟩⟩,
    ⟨14400, .fixed 0, some ⟨1972, 6, .on 1, .wall 0⟩⟩, ⟨10800, .fixed 0, none⟩]),
  ("Asia/Qostanay", [
    ⟨15268, .fixed 0, some ⟨1924, 5, .on 2, .wall 0⟩⟩,
    ⟨14400, .fixed 0, some ⟨1930, 6, .on 21, .wall 0⟩⟩,
    ⟨18000, .fixed 0, some ⟨1981, 4, .on 1, .wall 0⟩⟩,
    ⟨18000, .fixed 3600, some ⟨1981, 10, .on 1, .wall 0⟩⟩,
    ⟨21600, .fixed 0, some ⟨1982, 4, .on 1, .wall 0⟩⟩,
    ⟨18000, .rules Rules.russia, some ⟨1991, 3, .on 31, .standard 7200⟩⟩,
    ⟨14400, .rules Rules.russia, some ⟨1992, 1, .on 19, .standard 7200⟩⟩,
    ⟨18000, .rules Rules.russia, some ⟨2004, 10, .on 31, .standard 7200⟩⟩,
    ⟨21600, .fixed 0, some ⟨2024, 3, .on 1, .wall 0⟩⟩, ⟨18000, .fixed 0, none⟩]),
  ("Asia/Qyzylorda", [
    ⟨15712, .fixed 0, some ⟨1924, 5, .on 2, .wall 0⟩⟩,
    ⟨14400, .fixed 0, some ⟨1930, 6, .on 21, .wall 0⟩⟩,
    ⟨18000, .fixed 0, some ⟨1981, 4, .on 1, .wall 0⟩⟩,
    ⟨18000, .fixed 3600, some ⟨1981, 10, .on 1, .wall 0⟩⟩,
    ⟨21600, .fixed 0, some ⟨1982, 4, .on 1, .wall 0⟩⟩,
    ⟨18000, .rules Rules.russia, some ⟨1991, 3, .on 31, .standard 7200⟩⟩,
    ⟨14400, .rules Rules.russia, some ⟨1991, 9, .on 29, .standard 7200⟩⟩,
    ⟨18000, .rules Rules.russia, some ⟨1992, 1, .on 19, .standard 7200⟩⟩,
    ⟨21600, .rules Rules.russia, some ⟨1992, 3, .on 29, .standard 7200⟩⟩,
    ⟨18000, .rules Rules.russia, some ⟨2004, 10, .on 31, .standard 7200⟩⟩,
    ⟨21600, .fixed 0, some ⟨2018, 12, .on 21, .wall 0⟩⟩, ⟨18000, .fixed 0, none⟩]),
  ("Asia/Riyadh", [
    ⟨11212, .fixed 0, some ⟨1947, 3, .on 14, .wall 0⟩⟩, ⟨10800, .fixed 0, none⟩]),
  ("Asia/Sakhalin", [
    ⟨34248, .fixed 0, some ⟨1905, 8, .on 23, .wall 0⟩⟩,
    ⟨32400, .fixed 0, some ⟨1945, 8, .on 25, .wall 0⟩⟩,
    ⟨39600, .rules Rules.russia, some ⟨1991, 3, .on 31, .standard 7200⟩⟩,
    ⟨36000, .rules Rules.russia, some ⟨1992, 1, .on 19, .standard 7200⟩⟩,
    ⟨39600, .rules Rules.russia, some ⟨1997, 3, .last 6, .standard 7200⟩⟩,
    ⟨36000, .rules Rules.russia, some ⟨2011, 3, .on 27, .standard 7200⟩⟩,
    ⟨39600, .fixed 0, some ⟨2014, 10, .on 26, .standard 7200⟩⟩,
    ⟨36000, .fixed 0, some ⟨2016, 3, .on 27, .standard 7200⟩⟩, ⟨39600, .fixed 0, none⟩]),
  ("Asia/Samarkand", [
    ⟨16073, .fixed 0, some ⟨1924, 5, .on 2, .wall 0⟩⟩,
    ⟨14400, .fixed 0, some ⟨1930, 6, .on 21, .wall 0⟩⟩,
    ⟨18000, .fixed 0, some ⟨1981, 4, .on 1, .wall 0⟩⟩,
    ⟨18000, .fixed 3600, some ⟨1981, 10, .on 1, .wall 0⟩⟩,
    ⟨21600, .fixed 0, some ⟨1982, 4, .on 1, .wall 0⟩⟩,
    ⟨18000, .rules Rules.russia, some ⟨1992, 1, .on 1, .wall 0⟩⟩, ⟨18000, .fixed 0, none⟩]),
  ("Asia/Seoul", [
    ⟨30472, .fixed 0, some ⟨1908, 4, .on 1, .wall 0⟩⟩,
    ⟨30600, .fixed 0, some ⟨1912, 1, .on 1, .wall 0⟩⟩,
    ⟨32400, .fixed 0, some ⟨1945, 9, .on 8, .wall 0⟩⟩,
    ⟨32400, .rules Rules.korea, some ⟨1954, 3, .on 21, .wall 0⟩⟩,
    ⟨30600, .rules Rules.korea, some ⟨1961, 8, .on 10, .wall 0⟩⟩,
    ⟨32400, .rules Rules.korea, none⟩]),
  ("Asia/Shanghai", [
    ⟨29143, .fixed 0, some ⟨1901, 1, .on 1, .wall 0⟩⟩,
    ⟨28800, .rules Rules.shanghai, some ⟨1949, 5, .on 28, .wall 0⟩⟩,
    ⟨28800, .rules Rules.china, none⟩]),
  ("Asia/Singapore", [
    ⟨24925, .fixed 0, some ⟨1901, 1, .on 1, .wall 0⟩⟩,
    ⟨24925, .fixed 0, some ⟨1905, 6, .on 1, .wall 0⟩⟩,
    ⟨25200, .fixed 0, some ⟨1933, 1, .on 1, .wall 0⟩⟩,
    ⟨25200, .fixed 1200, some ⟨1936, 1, .on 1, .wall 0⟩⟩,
    ⟨26400, .fixed 0, some ⟨1941, 9, .on 1, .wall 0⟩⟩,
    ⟨27000, .fixed 0, some ⟨1942, 2, .on 16, .wall 0⟩⟩,
    ⟨32400, .fixed 0, some ⟨1945, 9, .on 12, .wall 0⟩⟩,
    ⟨27000, .fixed 0, some ⟨1981, 12, .on 31, .universal 57600⟩⟩, ⟨28800, .fixed 0, none⟩]),
  ("Asia/Srednekolymsk", [
    ⟨36892, .fixed 0, some ⟨1924, 5, .on 2, .wall 0⟩⟩,
    ⟨36000, .fixed 0, some ⟨1930, 6, .on 21, .wall 0⟩⟩,
    ⟨39600, .rules Rules.russia, some ⟨1991, 3, .on 31, .standard 7200⟩⟩,
    ⟨36000, .rules Rules.russia, some ⟨1992, 1, .on 19, .standard 7200⟩⟩,
    ⟨39600, .rules Rules.russia, some ⟨2011, 3, .on 27, .standard 7200⟩⟩,
    ⟨43200, .fixed 0, some ⟨2014, 10, .on 26, .standard 7200⟩⟩, ⟨39600, .fixed 0, none⟩]),
  ("Asia/Taipei", [
    ⟨29160, .fixed 0, some ⟨1896, 1, .on 1, .wall 0⟩⟩,
    ⟨28800, .fixed 0, some ⟨1937, 10, .on 1, .wall 0⟩⟩,
    ⟨32400, .fixed 0, some ⟨1945, 9, .on 21, .wall 3600⟩⟩, ⟨28800, .rules Rules.taiwan, none⟩]),
  ("Asia/Tashkent", [
    ⟨16631, .fixed 0, some ⟨1924, 5, .on 2, .wall 0⟩⟩,
    ⟨18000, .fixed 0, some ⟨1930, 6, .on 21, .wall 0⟩⟩,
    ⟨21600, .rules Rules.russia, some ⟨1991, 3, .on 31, .wall 7200⟩⟩,
    ⟨18000, .rules Rules.russia, some ⟨1992, 1, .on 1, .wall 0⟩⟩, ⟨18000, .fixed 0, none⟩]),
  ("Asia/Tbilisi", [
    ⟨10751, .fixed 0, some ⟨1880, 1, .on 1, .wall 0⟩⟩,
    ⟨10751, .fixed 0, some ⟨1924, 5, .on 2, .wall 0⟩⟩,
    ⟨10800, .fixed 0, some ⟨1957, 3, .on 1, .wall 0⟩⟩,
    ⟨14400, .rules Rules.russia, some ⟨1991, 3, .on 31, .standard 7200⟩⟩,
    ⟨10800, .rules Rules.russia, some ⟨1992, 1, .on 1, .wall 0⟩⟩,
    ⟨10800, .rules Rules.eastEurope, some ⟨1994, 9, .last 6, .wall 0⟩⟩,
    ⟨14400, .rules Rules.eastEurope, some ⟨1996, 10, .last 6, .wall 0⟩⟩,
    ⟨14400, .fixed 3600, some ⟨1997, 3, .last 6, .wall 0⟩⟩,
    ⟨14400, .rules Rules.eastEurope, some ⟨2004, 6, .on 27, .wall 0⟩⟩,
    ⟨10800, .rules Rules.russia, some ⟨2005, 3, .last 6, .wall 7200⟩⟩, ⟨14400, .fixed 0, none⟩]),
  ("Asia/Tehran", [
    ⟨12344, .fixed 0, some ⟨1916, 1, .on 1, .wall 0⟩⟩,
    ⟨12344, .fixed 0, some ⟨1935, 6, .on 13, .wall 0⟩⟩,
    ⟨12600, .rules Rules.iran, some ⟨1977, 10, .on 20, .wall 86400⟩⟩,
    ⟨14400, .rules Rules.iran, some ⟨1978, 11, .on 10, .wall 86400⟩⟩,
    ⟨12600, .rules Rules.iran, none⟩]),
  ("Asia/Thimphu", [
    ⟨21516, .fixed 0, some ⟨1947, 8, .on 15, .wall 0⟩⟩,
    ⟨19800, .fixed 0, some ⟨1987, 10, .on 1, .wall 0⟩⟩, ⟨21600, .fixed 0, none⟩]),
  ("Asia/Tokyo", [
    ⟨33539, .fixed 0, some ⟨1887, 12, .on 31, .universal 54000⟩⟩,
    ⟨32400, .rules Rules.japan, none⟩]),
  ("Asia/Tomsk", [
    ⟨20391, .fixed 0, some ⟨1919, 12, .on 22, .wall 0⟩⟩,
    ⟨21600, .fixed 0, some ⟨1930, 6, .on 21, .wall 0⟩⟩,
    ⟨25200, .rules Rules.russia, some ⟨1991, 3, .on 31, .standard 7200⟩⟩,
    ⟨21600, .rules Rules.russia, some ⟨1992, 1, .on 19, .standard 7200⟩⟩,
    ⟨25200, .rules Rules.russia, some ⟨2002, 5, .on 1, .wall 10800⟩⟩,
    ⟨21600, .rules Rules.russia, some ⟨2011, 3, .on 27, .standard 7200⟩⟩,
    ⟨25200, .fixed 0, some ⟨2014, 10, .on 26, .standard 7200⟩⟩,
    ⟨21600, .fixed 0, some ⟨2016, 5, .on 29, .standard 7200⟩⟩, ⟨25200, .fixed 0, none⟩]),
  ("Asia/Ulaanbaatar", [
    ⟨25652, .fixed 0, some ⟨1905, 8, .on 1, .wall 0⟩⟩,
    ⟨25200, .fixed 0, some ⟨1978, 1, .on 1, .wall 0⟩⟩, ⟨28800, .rules Rules.mongolia, none⟩]),
  ("Asia/Urumqi", [
    ⟨21020, .fixed 0, some ⟨1928, 1, .on 1, .wall 0⟩⟩, ⟨21600, .fixed 0, none⟩]),
  ("Asia/Ust-Nera", [
    ⟨34374, .fixed 0, some ⟨1919, 12, .on 15, .wall 0⟩⟩,
    ⟨28800, .fixed 0, some ⟨1930, 6, .on 21, .wall 0⟩⟩,
    ⟨32400, .rules Rules.russia, some ⟨1981, 4, .on 1, .wall 0⟩⟩,
    ⟨39600, .rules Rules.russia, some ⟨1991, 3, .on 31, .standard 7200⟩⟩,
    ⟨36000, .rules Rules.russia, some ⟨1992, 1, .on 19, .standard 7200⟩⟩,
    ⟨39600, .rules Rules.russia, some ⟨2011, 3, .on 27, .standard 7200⟩⟩,
    ⟨43200, .fixed 0, some ⟨2011, 9, .on 13, .standard 0⟩⟩,
    ⟨39600, .fixed 0, some ⟨2014, 10, .on 26, .standard 7200⟩⟩, ⟨36000, .fixed 0, none⟩]),
  ("Asia/Vladivostok", [
    ⟨31651, .fixed 0, some ⟨1922, 11, .on 15, .wall 0⟩⟩,
    ⟨32400, .fixed 0, some ⟨1930, 6, .on 21, .wall 0⟩⟩,
    ⟨36000, .rules Rules.russia, some ⟨1991, 3, .on 31, .standard 7200⟩⟩,
    ⟨32400, .rules Rules.russia, some ⟨1992, 1, .on 19, .standard 7200⟩⟩,
    ⟨36000, .rules Rules.russia, some ⟨2011, 3, .on 27, .standard 7200⟩⟩,
    ⟨39600, .fixed 0, some ⟨2014, 10, .on 26, .standard 7200⟩⟩, ⟨36000, .fixed 0, none⟩]),
  ("Asia/Yakutsk", [
    ⟨31138, .fixed 0, some ⟨1919, 12, .on 15, .wall 0⟩⟩,
    ⟨28800, .fixed 0, some ⟨1930, 6, .on 21, .wall 0⟩⟩,
    ⟨32400, .rules Rules.russia, some ⟨1991, 3, .on 31, .standard 7200⟩⟩,
    ⟨28800, .rules Rules.russia, some ⟨1992, 1, .on 19, .standard 7200⟩⟩,
    ⟨32400, .rules Rules.russia, some ⟨2011, 3, .on 27, .standard 7200⟩⟩,
    ⟨36000, .fixed 0, some ⟨2014, 10, .on 26, .standard 7200⟩⟩, ⟨32400, .fixed 0, none⟩]),
  ("Asia/Yangon", [
    ⟨23087, .fixed 0, some ⟨1880, 1, .on 1, .wall 0⟩⟩,
    ⟨23087, .fixed 0, some ⟨1920, 1, .on 1, .wall 0⟩⟩,
    ⟨23400, .fixed 0, some ⟨1942, 5, .on 1, .wall 0⟩⟩,
    ⟨32400, .fixed 0, some ⟨1945, 5, .on 3, .wall 0⟩⟩, ⟨23400, .fixed 0, none⟩]),
  ("Asia/Yekaterinburg", [
    ⟨14553, .fixed 0, some ⟨1916, 7, .on 3, .wall 0⟩⟩,
    ⟨13505, .fixed 0, some ⟨1919, 7, .on 15, .wall 14400⟩⟩,
    ⟨14400, .fixed 0, some ⟨1930, 6, .on 21, .wall 0⟩⟩,
    ⟨18000, .rules Rules.russia, some ⟨1991, 3, .on 31, .standard 7200⟩⟩,
    ⟨14400, .rules Rules.russia, some ⟨1992, 1, .on 19, .standard 7200⟩⟩,
    ⟨18000, .rules Rules.russia, some ⟨2011, 3, .on 27, .standard 7200⟩⟩,
    ⟨21600, .fixed 0, some ⟨2014, 10, .on 26, .standard 7200⟩⟩, ⟨18000, .fixed 0, none⟩]),
  ("Asia/Yerevan", [
    ⟨10680, .fixed 0, some ⟨1924, 5, .on 2, .wall 0⟩⟩,
    ⟨10800, .fixed 0, some ⟨1957, 3, .on 1, .wall 0⟩⟩,
    ⟨14400, .rules Rules.russia, some ⟨1991, 3, .on 31, .standard 7200⟩⟩,
    ⟨10800, .rules Rules.russia, some ⟨1995, 9, .on 24, .standard 7200⟩⟩,
    ⟨14400, .fixed 0, some ⟨1997, 1, .on 1, .wall 0⟩⟩,
    ⟨14400, .rules Rules.russia, some ⟨2011, 1, .on 1, .wall 0⟩⟩,
    ⟨14400, .rules Rules.armenia, none⟩])]

end ForeignLayer.Calendar.Zones
