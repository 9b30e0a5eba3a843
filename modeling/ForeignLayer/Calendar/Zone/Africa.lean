import ForeignLayer.Calendar.Zone.Rules.Africa
import ForeignLayer.Calendar.Zone.Rules.Europe

/-!
# Time zones of Africa and the Indian Ocean

The histories of the zones, from the public record of time zones.
-/

namespace ForeignLayer.Calendar.Zones

/-- The names and the histories of the zones. -/
def africa : List (String × History) := [
  ("Africa/Abidjan", [
    ⟨-968, .fixed 0, some ⟨1912, 1, .on 1, .wall 0⟩⟩, ⟨0, .fixed 0, none⟩]),
  ("Africa/Algiers", [
    ⟨732, .fixed 0, some ⟨1891, 3, .on 16, .wall 0⟩⟩,
    ⟨561, .fixed 0, some ⟨1911, 3, .on 11, .wall 0⟩⟩,
    ⟨0, .rules Rules.algeria, some ⟨1940, 2, .on 25, .wall 7200⟩⟩,
    ⟨3600, .rules Rules.algeria, some ⟨1946, 10, .on 7, .wall 0⟩⟩,
    ⟨0, .fixed 0, some ⟨1956, 1, .on 29, .wall 0⟩⟩,
    ⟨3600, .fixed 0, some ⟨1963, 4, .on 14, .wall 0⟩⟩,
    ⟨0, .rules Rules.algeria, some ⟨1977, 10, .on 21, .wall 0⟩⟩,
    ⟨3600, .rules Rules.algeria, some ⟨1979, 10, .on 26, .wall 0⟩⟩,
    ⟨0, .rules Rules.algeria, some ⟨1981, 5, .on 1, .wall 0⟩⟩, ⟨3600, .fixed 0, none⟩]),
  ("Africa/Bissau", [
    ⟨-3740, .fixed 0, some ⟨1912, 1, .on 1, .universal 3600⟩⟩,
    ⟨-3600, .fixed 0, some ⟨1975, 1, .on 1, .wall 0⟩⟩, ⟨0, .fixed 0, none⟩]),
  ("Africa/Cairo", [
    ⟨7509, .fixed 0, some ⟨1900, 10, .on 1, .wall 0⟩⟩, ⟨7200, .rules Rules.egypt, none⟩]),
  ("Africa/Casablanca", [
    ⟨-1820, .fixed 0, some ⟨1913, 10, .on 26, .wall 0⟩⟩,
    ⟨0, .rules Rules.morocco, some ⟨1984, 3, .on 16, .wall 0⟩⟩,
    ⟨3600, .fixed 0, some ⟨1986, 1, .on 1, .wall 0⟩⟩,
    ⟨0, .rules Rules.morocco, some ⟨2018, 10, .on 28, .wall 10800⟩⟩,
    ⟨0, .rules Rules.morocco, none⟩]),
  ("Africa/Ceuta", [
    ⟨-1276, .fixed 0, some ⟨1901, 1, .on 1, .universal 0⟩⟩,
    ⟨0, .fixed 0, some ⟨1918, 5, .on 6, .wall 82800⟩⟩,
    ⟨0, .fixed 3600, some ⟨1918, 10, .on 7, .wall 82800⟩⟩,
    ⟨0, .fixed 0, some ⟨1924, 1, .on 1, .wall 0⟩⟩,
    ⟨0, .rules Rules.spain, some ⟨1929, 1, .on 1, .wall 0⟩⟩,
    ⟨0, .fixed 0, some ⟨1967, 1, .on 1, .wall 0⟩⟩,
    ⟨0, .rules Rules.ceuta, some ⟨1984, 3, .on 16, .wall 0⟩⟩,
    ⟨3600, .fixed 0, some ⟨1986, 1, .on 1, .wall 0⟩⟩, ⟨3600, .rules Rules.europe, none⟩]),
  ("Africa/El_Aaiun", [
    ⟨-3168, .fixed 0, some ⟨1934, 1, .on 1, .wall 0⟩⟩,
    ⟨-3600, .fixed 0, some ⟨1976, 4, .on 14, .wall 0⟩⟩,
    ⟨0, .rules Rules.morocco, some ⟨2018, 10, .on 28, .wall 10800⟩⟩,
    ⟨0, .rules Rules.morocco, none⟩]),
  ("Africa/Johannesburg", [
    ⟨6720, .fixed 0, some ⟨1892, 2, .on 8, .wall 0⟩⟩,
    ⟨5400, .fixed 0, some ⟨1903, 3, .on 1, .wall 0⟩⟩, ⟨7200, .rules Rules.southAfrica, none⟩]),
  ("Africa/Juba", [
    ⟨7588, .fixed 0, some ⟨1931, 1, .on 1, .wall 0⟩⟩,
    ⟨7200, .rules Rules.sudan, some ⟨2000, 1, .on 15, .wall 43200⟩⟩,
    ⟨10800, .fixed 0, some ⟨2021, 2, .on 1, .wall 0⟩⟩, ⟨7200, .fixed 0, none⟩]),
  ("Africa/Khartoum", [
    ⟨7808, .fixed 0, some ⟨1931, 1, .on 1, .wall 0⟩⟩,
    ⟨7200, .rules Rules.sudan, some ⟨2000, 1, .on 15, .wall 43200⟩⟩,
    ⟨10800, .fixed 0, some ⟨2017, 11, .on 1, .wall 0⟩⟩, ⟨7200, .fixed 0, none⟩]),
  ("Africa/Lagos", [
    ⟨815, .fixed 0, some ⟨1905, 7, .on 1, .wall 0⟩⟩, ⟨0, .fixed 0, some ⟨1908, 7, .on 1, .wall 0⟩⟩,
    ⟨815, .fixed 0, some ⟨1914, 1, .on 1, .wall 0⟩⟩,
    ⟨1800, .fixed 0, some ⟨1919, 9, .on 1, .wall 0⟩⟩, ⟨3600, .fixed 0, none⟩]),
  ("Africa/Maputo", [
    ⟨7818, .fixed 0, some ⟨1909, 1, .on 1, .wall 0⟩⟩, ⟨7200, .fixed 0, none⟩]),
  ("Africa/Monrovia", [
    ⟨-2588, .fixed 0, some ⟨1882, 1, .on 1, .wall 0⟩⟩,
    ⟨-2588, .fixed 0, some ⟨1919, 3, .on 1, .wall 0⟩⟩,
    ⟨-2670, .fixed 0, some ⟨1972, 1, .on 7, .wall 0⟩⟩, ⟨0, .fixed 0, none⟩]),
  ("Africa/Nairobi", [
    ⟨8836, .fixed 0, some ⟨1908, 5, .on 1, .wall 0⟩⟩,
    ⟨9000, .fixed 0, some ⟨1928, 6, .on 30, .wall 86400⟩⟩,
    ⟨10800, .fixed 0, some ⟨1930, 1, .on 4, .wall 86400⟩⟩,
    ⟨9000, .fixed 0, some ⟨1936, 12, .on 31, .wall 86400⟩⟩,
    ⟨9900, .fixed 0, some ⟨1942, 7, .on 31, .wall 86400⟩⟩, ⟨10800, .fixed 0, none⟩]),
  ("Africa/Ndjamena", [
    ⟨3612, .fixed 0, some ⟨1912, 1, .on 1, .wall 0⟩⟩,
    ⟨3600, .fixed 0, some ⟨1979, 10, .on 14, .wall 0⟩⟩,
    ⟨3600, .fixed 3600, some ⟨1980, 3, .on 8, .wall 0⟩⟩, ⟨3600, .fixed 0, none⟩]),
  ("Africa/Sao_Tome", [
    ⟨1616, .fixed 0, some ⟨1884, 1, .on 1, .wall 0⟩⟩,
    ⟨-2205, .fixed 0, some ⟨1912, 1, .on 1, .universal 0⟩⟩,
    ⟨0, .fixed 0, some ⟨2018, 1, .on 1, .wall 3600⟩⟩,
    ⟨3600, .fixed 0, some ⟨2019, 1, .on 1, .wall 7200⟩⟩, ⟨0, .fixed 0, none⟩]),
  ("Africa/Tripoli", [
    ⟨3164, .fixed 0, some ⟨1920, 1, .on 1, .wall 0⟩⟩,
    ⟨3600, .rules Rules.libya, some ⟨1959, 1, .on 1, .wall 0⟩⟩,
    ⟨7200, .fixed 0, some ⟨1982, 1, .on 1, .wall 0⟩⟩,
    ⟨3600, .rules Rules.libya, some ⟨1990, 5, .on 4, .wall 0⟩⟩,
    ⟨7200, .fixed 0, some ⟨1996, 9, .on 30, .wall 0⟩⟩,
    ⟨3600, .rules Rules.libya, some ⟨1997, 10, .on 4, .wall 0⟩⟩,
    ⟨7200, .fixed 0, some ⟨2012, 11, .on 10, .wall 7200⟩⟩,
    ⟨3600, .rules Rules.libya, some ⟨2013, 10, .on 25, .wall 7200⟩⟩, ⟨7200, .fixed 0, none⟩]),
  ("Africa/Tunis", [
    ⟨2444, .fixed 0, some ⟨1881, 5, .on 12, .wall 0⟩⟩,
    ⟨561, .fixed 0, some ⟨1911, 3, .on 11, .wall 0⟩⟩, ⟨3600, .rules Rules.tunisia, none⟩]),
  ("Africa/Windhoek", [
    ⟨4104, .fixed 0, some ⟨1892, 2, .on 8, .wall 0⟩⟩,
    ⟨5400, .fixed 0, some ⟨1903, 3, .on 1, .wall 0⟩⟩,
    ⟨7200, .fixed 0, some ⟨1942, 9, .on 20, .wall 7200⟩⟩,
    ⟨7200, .fixed 3600, some ⟨1943, 3, .on 21, .wall 7200⟩⟩,
    ⟨7200, .fixed 0, some ⟨1990, 3, .on 21, .wall 0⟩⟩,
    ⟨7200, .fixed 0, some ⟨1994, 3, .on 21, .wall 0⟩⟩,
    ⟨3600, .rules Rules.namibia, some ⟨2017, 10, .on 24, .wall 0⟩⟩, ⟨7200, .fixed 0, none⟩]),
  ("Indian/Chagos", [
    ⟨17380, .fixed 0, some ⟨1907, 1, .on 1, .wall 0⟩⟩,
    ⟨18000, .fixed 0, some ⟨1996, 1, .on 1, .wall 0⟩⟩, ⟨21600, .fixed 0, none⟩]),
  ("Indian/Maldives", [
    ⟨17640, .fixed 0, some ⟨1880, 1, .on 1, .wall 0⟩⟩,
    ⟨17640, .fixed 0, some ⟨1960, 1, .on 1, .wall 0⟩⟩, ⟨18000, .fixed 0, none⟩]),
  ("Indian/Mauritius", [
    ⟨13800, .fixed 0, some ⟨1907, 1, .on 1, .wall 0⟩⟩, ⟨14400, .rules Rules.mauritius, none⟩])]

end ForeignLayer.Calendar.Zones
