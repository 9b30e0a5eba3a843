import ForeignLayer.Calendar.Zone.Rules.SouthAmerica

/-!
# Time zones of South America

The histories of the zones, from the public record of time zones.
-/

namespace ForeignLayer.Calendar.Zones

/-- The names and the histories of the zones. -/
def southAmerica : List (String × History) := [
  ("America/Araguaina", [
    ⟨-11568, .fixed 0, some ⟨1914, 1, .on 1, .wall 0⟩⟩,
    ⟨-10800, .rules Rules.brazil, some ⟨1990, 9, .on 17, .wall 0⟩⟩,
    ⟨-10800, .fixed 0, some ⟨1995, 9, .on 14, .wall 0⟩⟩,
    ⟨-10800, .rules Rules.brazil, some ⟨2003, 9, .on 24, .wall 0⟩⟩,
    ⟨-10800, .fixed 0, some ⟨2012, 10, .on 21, .wall 0⟩⟩,
    ⟨-10800, .rules Rules.brazil, some ⟨2013, 9, .on 1, .wall 0⟩⟩, ⟨-10800, .fixed 0, none⟩]),
  ("America/Argentina/Buenos_Aires", [
    ⟨-14028, .fixed 0, some ⟨1894, 10, .on 31, .wall 0⟩⟩,
    ⟨-15408, .fixed 0, some ⟨1920, 5, .on 1, .wall 0⟩⟩,
    ⟨-14400, .fixed 0, some ⟨1930, 12, .on 1, .wall 0⟩⟩,
    ⟨-14400, .rules Rules.argentina, some ⟨1969, 10, .on 5, .wall 0⟩⟩,
    ⟨-10800, .rules Rules.argentina, some ⟨1999, 10, .on 3, .wall 0⟩⟩,
    ⟨-14400, .rules Rules.argentina, some ⟨2000, 3, .on 3, .wall 0⟩⟩,
    ⟨-10800, .rules Rules.argentina, none⟩]),
  ("America/Argentina/Catamarca", [
    ⟨-15788, .fixed 0, some ⟨1894, 10, .on 31, .wall 0⟩⟩,
    ⟨-15408, .fixed 0, some ⟨1920, 5, .on 1, .wall 0⟩⟩,
    ⟨-14400, .fixed 0, some ⟨1930, 12, .on 1, .wall 0⟩⟩,
    ⟨-14400, .rules Rules.argentina, some ⟨1969, 10, .on 5, .wall 0⟩⟩,
    ⟨-10800, .rules Rules.argentina, some ⟨1991, 3, .on 3, .wall 0⟩⟩,
    ⟨-14400, .fixed 0, some ⟨1991, 10, .on 20, .wall 0⟩⟩,
    ⟨-10800, .rules Rules.argentina, some ⟨1999, 10, .on 3, .wall 0⟩⟩,
    ⟨-14400, .rules Rules.argentina, some ⟨2000, 3, .on 3, .wall 0⟩⟩,
    ⟨-10800, .fixed 0, some ⟨2004, 6, .on 1, .wall 0⟩⟩,
    ⟨-14400, .fixed 0, some ⟨2004, 6, .on 20, .wall 0⟩⟩,
    ⟨-10800, .rules Rules.argentina, some ⟨2008, 10, .on 18, .wall 0⟩⟩, ⟨-10800, .fixed 0, none⟩]),
  ("America/Argentina/Cordoba", [
    ⟨-15408, .fixed 0, some ⟨1894, 10, .on 31, .wall 0⟩⟩,
    ⟨-15408, .fixed 0, some ⟨1920, 5, .on 1, .wall 0⟩⟩,
    ⟨-14400, .fixed 0, some ⟨1930, 12, .on 1, .wall 0⟩⟩,
    ⟨-14400, .rules Rules.argentina, some ⟨1969, 10, .on 5, .wall 0⟩⟩,
    ⟨-10800, .rules Rules.argentina, some ⟨1991, 3, .on 3, .wall 0⟩⟩,
    ⟨-14400, .fixed 0, some ⟨1991, 10, .on 20, .wall 0⟩⟩,
    ⟨-10800, .rules Rules.argentina, some ⟨1999, 10, .on 3, .wall 0⟩⟩,
    ⟨-14400, .rules Rules.argentina, some ⟨2000, 3, .on 3, .wall 0⟩⟩,
    ⟨-10800, .rules Rules.argentina, none⟩]),
  ("America/Argentina/Jujuy", [
    ⟨-15672, .fixed 0, some ⟨1894, 10, .on 31, .wall 0⟩⟩,
    ⟨-15408, .fixed 0, some ⟨1920, 5, .on 1, .wall 0⟩⟩,
    ⟨-14400, .fixed 0, some ⟨1930, 12, .on 1, .wall 0⟩⟩,
    ⟨-14400, .rules Rules.argentina, some ⟨1969, 10, .on 5, .wall 0⟩⟩,
    ⟨-10800, .rules Rules.argentina, some ⟨1990, 3, .on 4, .wall 0⟩⟩,
    ⟨-14400, .fixed 0, some ⟨1990, 10, .on 28, .wall 0⟩⟩,
    ⟨-14400, .fixed 3600, some ⟨1991, 3, .on 17, .wall 0⟩⟩,
    ⟨-14400, .fixed 0, some ⟨1991, 10, .on 6, .wall 0⟩⟩,
    ⟨-10800, .fixed 3600, some ⟨1992, 1, .on 1, .wall 0⟩⟩,
    ⟨-10800, .rules Rules.argentina, some ⟨1999, 10, .on 3, .wall 0⟩⟩,
    ⟨-14400, .rules Rules.argentina, some ⟨2000, 3, .on 3, .wall 0⟩⟩,
    ⟨-10800, .rules Rules.argentina, some ⟨2008, 10, .on 18, .wall 0⟩⟩, ⟨-10800, .fixed 0, none⟩]),
  ("America/Argentina/La_Rioja", [
    ⟨-16044, .fixed 0, some ⟨1894, 10, .on 31, .wall 0⟩⟩,
    ⟨-15408, .fixed 0, some ⟨1920, 5, .on 1, .wall 0⟩⟩,
    ⟨-14400, .fixed 0, some ⟨1930, 12, .on 1, .wall 0⟩⟩,
    ⟨-14400, .rules Rules.argentina, some ⟨1969, 10, .on 5, .wall 0⟩⟩,
    ⟨-10800, .rules Rules.argentina, some ⟨1991, 3, .on 1, .wall 0⟩⟩,
    ⟨-14400, .fixed 0, some ⟨1991, 5, .on 7, .wall 0⟩⟩,
    ⟨-10800, .rules Rules.argentina, some ⟨1999, 10, .on 3, .wall 0⟩⟩,
    ⟨-14400, .rules Rules.argentina, some ⟨2000, 3, .on 3, .wall 0⟩⟩,
    ⟨-10800, .fixed 0, some ⟨2004, 6, .on 1, .wall 0⟩⟩,
    ⟨-14400, .fixed 0, some ⟨2004, 6, .on 20, .wall 0⟩⟩,
    ⟨-10800, .rules Rules.argentina, some ⟨2008, 10, .on 18, .wall 0⟩⟩, ⟨-10800, .fixed 0, none⟩]),
  ("America/Argentina/Mendoza", [
    ⟨-16516, .fixed 0, some ⟨1894, 10, .on 31, .wall 0⟩⟩,
    ⟨-15408, .fixed 0, some ⟨1920, 5, .on 1, .wall 0⟩⟩,
    ⟨-14400, .fixed 0, some ⟨1930, 12, .on 1, .wall 0⟩⟩,
    ⟨-14400, .rules Rules.argentina, some ⟨1969, 10, .on 5, .wall 0⟩⟩,
    ⟨-10800, .rules Rules.argentina, some ⟨1990, 3, .on 4, .wall 0⟩⟩,
    ⟨-14400, .fixed 0, some ⟨1990, 10, .on 15, .wall 0⟩⟩,
    ⟨-14400, .fixed 3600, some ⟨1991, 3, .on 1, .wall 0⟩⟩,
    ⟨-14400, .fixed 0, some ⟨1991, 10, .on 15, .wall 0⟩⟩,
    ⟨-14400, .fixed 3600, some ⟨1992, 3, .on 1, .wall 0⟩⟩,
    ⟨-14400, .fixed 0, some ⟨1992, 10, .on 18, .wall 0⟩⟩,
    ⟨-10800, .rules Rules.argentina, some ⟨1999, 10, .on 3, .wall 0⟩⟩,
    ⟨-14400, .rules Rules.argentina, some ⟨2000, 3, .on 3, .wall 0⟩⟩,
    ⟨-10800, .fixed 0, some ⟨2004, 5, .on 23, .wall 0⟩⟩,
    ⟨-14400, .fixed 0, some ⟨2004, 9, .on 26, .wall 0⟩⟩,
    ⟨-10800, .rules Rules.argentina, some ⟨2008, 10, .on 18, .wall 0⟩⟩, ⟨-10800, .fixed 0, none⟩]),
  ("America/Argentina/Rio_Gallegos", [
    ⟨-16612, .fixed 0, some ⟨1894, 10, .on 31, .wall 0⟩⟩,
    ⟨-15408, .fixed 0, some ⟨1920, 5, .on 1, .wall 0⟩⟩,
    ⟨-14400, .fixed 0, some ⟨1930, 12, .on 1, .wall 0⟩⟩,
    ⟨-14400, .rules Rules.argentina, some ⟨1969, 10, .on 5, .wall 0⟩⟩,
    ⟨-10800, .rules Rules.argentina, some ⟨1999, 10, .on 3, .wall 0⟩⟩,
    ⟨-14400, .rules Rules.argentina, some ⟨2000, 3, .on 3, .wall 0⟩⟩,
    ⟨-10800, .fixed 0, some ⟨2004, 6, .on 1, .wall 0⟩⟩,
    ⟨-14400, .fixed 0, some ⟨2004, 6, .on 20, .wall 0⟩⟩,
    ⟨-10800, .rules Rules.argentina, some ⟨2008, 10, .on 18, .wall 0⟩⟩, ⟨-10800, .fixed 0, none⟩]),
  ("America/Argentina/Salta", [
    ⟨-15700, .fixed 0, some ⟨1894, 10, .on 31, .wall 0⟩⟩,
    ⟨-15408, .fixed 0, some ⟨1920, 5, .on 1, .wall 0⟩⟩,
    ⟨-14400, .fixed 0, some ⟨1930, 12, .on 1, .wall 0⟩⟩,
    ⟨-14400, .rules Rules.argentina, some ⟨1969, 10, .on 5, .wall 0⟩⟩,
    ⟨-10800, .rules Rules.argentina, some ⟨1991, 3, .on 3, .wall 0⟩⟩,
    ⟨-14400, .fixed 0, some ⟨1991, 10, .on 20, .wall 0⟩⟩,
    ⟨-10800, .rules Rules.argentina, some ⟨1999, 10, .on 3, .wall 0⟩⟩,
    ⟨-14400, .rules Rules.argentina, some ⟨2000, 3, .on 3, .wall 0⟩⟩,
    ⟨-10800, .rules Rules.argentina, some ⟨2008, 10, .on 18, .wall 0⟩⟩, ⟨-10800, .fixed 0, none⟩]),
  ("America/Argentina/San_Juan", [
    ⟨-16444, .fixed 0, some ⟨1894, 10, .on 31, .wall 0⟩⟩,
    ⟨-15408, .fixed 0, some ⟨1920, 5, .on 1, .wall 0⟩⟩,
    ⟨-14400, .fixed 0, some ⟨1930, 12, .on 1, .wall 0⟩⟩,
    ⟨-14400, .rules Rules.argentina, some ⟨1969, 10, .on 5, .wall 0⟩⟩,
    ⟨-10800, .rules Rules.argentina, some ⟨1991, 3, .on 1, .wall 0⟩⟩,
    ⟨-14400, .fixed 0, some ⟨1991, 5, .on 7, .wall 0⟩⟩,
    ⟨-10800, .rules Rules.argentina, some ⟨1999, 10, .on 3, .wall 0⟩⟩,
    ⟨-14400, .rules Rules.argentina, some ⟨2000, 3, .on 3, .wall 0⟩⟩,
    ⟨-10800, .fixed 0, some ⟨2004, 5, .on 31, .wall 0⟩⟩,
    ⟨-14400, .fixed 0, some ⟨2004, 7, .on 25, .wall 0⟩⟩,
    ⟨-10800, .rules Rules.argentina, some ⟨2008, 10, .on 18, .wall 0⟩⟩, ⟨-10800, .fixed 0, none⟩]),
  ("America/Argentina/San_Luis", [
    ⟨-15924, .fixed 0, some ⟨1894, 10, .on 31, .wall 0⟩⟩,
    ⟨-15408, .fixed 0, some ⟨1920, 5, .on 1, .wall 0⟩⟩,
    ⟨-14400, .fixed 0, some ⟨1930, 12, .on 1, .wall 0⟩⟩,
    ⟨-14400, .rules Rules.argentina, some ⟨1969, 10, .on 5, .wall 0⟩⟩,
    ⟨-10800, .rules Rules.argentina, some ⟨1990, 1, .on 1, .wall 0⟩⟩,
    ⟨-10800, .fixed 3600, some ⟨1990, 3, .on 14, .wall 0⟩⟩,
    ⟨-14400, .fixed 0, some ⟨1990, 10, .on 15, .wall 0⟩⟩,
    ⟨-14400, .fixed 3600, some ⟨1991, 3, .on 1, .wall 0⟩⟩,
    ⟨-14400, .fixed 0, some ⟨1991, 6, .on 1, .wall 0⟩⟩,
    ⟨-10800, .fixed 0, some ⟨1999, 10, .on 3, .wall 0⟩⟩,
    ⟨-14400, .fixed 3600, some ⟨2000, 3, .on 3, .wall 0⟩⟩,
    ⟨-10800, .fixed 0, some ⟨2004, 5, .on 31, .wall 0⟩⟩,
    ⟨-14400, .fixed 0, some ⟨2004, 7, .on 25, .wall 0⟩⟩,
    ⟨-10800, .rules Rules.argentina, some ⟨2008, 1, .on 21, .wall 0⟩⟩,
    ⟨-14400, .rules Rules.sanLuis, some ⟨2009, 10, .on 11, .wall 0⟩⟩, ⟨-10800, .fixed 0, none⟩]),
  ("America/Argentina/Tucuman", [
    ⟨-15652, .fixed 0, some ⟨1894, 10, .on 31, .wall 0⟩⟩,
    ⟨-15408, .fixed 0, some ⟨1920, 5, .on 1, .wall 0⟩⟩,
    ⟨-14400, .fixed 0, some ⟨1930, 12, .on 1, .wall 0⟩⟩,
    ⟨-14400, .rules Rules.argentina, some ⟨1969, 10, .on 5, .wall 0⟩⟩,
    ⟨-10800, .rules Rules.argentina, some ⟨1991, 3, .on 3, .wall 0⟩⟩,
    ⟨-14400, .fixed 0, some ⟨1991, 10, .on 20, .wall 0⟩⟩,
    ⟨-10800, .rules Rules.argentina, some ⟨1999, 10, .on 3, .wall 0⟩⟩,
    ⟨-14400, .rules Rules.argentina, some ⟨2000, 3, .on 3, .wall 0⟩⟩,
    ⟨-10800, .fixed 0, some ⟨2004, 6, .on 1, .wall 0⟩⟩,
    ⟨-14400, .fixed 0, some ⟨2004, 6, .on 13, .wall 0⟩⟩, ⟨-10800, .rules Rules.argentina, none⟩]),
  ("America/Argentina/Ushuaia", [
    ⟨-16392, .fixed 0, some ⟨1894, 10, .on 31, .wall 0⟩⟩,
    ⟨-15408, .fixed 0, some ⟨1920, 5, .on 1, .wall 0⟩⟩,
    ⟨-14400, .fixed 0, some ⟨1930, 12, .on 1, .wall 0⟩⟩,
    ⟨-14400, .rules Rules.argentina, some ⟨1969, 10, .on 5, .wall 0⟩⟩,
    ⟨-10800, .rules Rules.argentina, some ⟨1999, 10, .on 3, .wall 0⟩⟩,
    ⟨-14400, .rules Rules.argentina, some ⟨2000, 3, .on 3, .wall 0⟩⟩,
    ⟨-10800, .fixed 0, some ⟨2004, 5, .on 30, .wall 0⟩⟩,
    ⟨-14400, .fixed 0, some ⟨2004, 6, .on 20, .wall 0⟩⟩,
    ⟨-10800, .rules Rules.argentina, some ⟨2008, 10, .on 18, .wall 0⟩⟩, ⟨-10800, .fixed 0, none⟩]),
  ("America/Asuncion", [
    ⟨-13840, .fixed 0, some ⟨1890, 1, .on 1, .wall 0⟩⟩,
    ⟨-13840, .fixed 0, some ⟨1931, 10, .on 10, .wall 0⟩⟩,
    ⟨-14400, .fixed 0, some ⟨1972, 10, .on 1, .wall 0⟩⟩,
    ⟨-10800, .fixed 0, some ⟨1974, 4, .on 1, .wall 0⟩⟩,
    ⟨-14400, .rules Rules.paraguay, some ⟨2024, 10, .on 15, .wall 0⟩⟩, ⟨-10800, .fixed 0, none⟩]),
  ("America/Bahia", [
    ⟨-9244, .fixed 0, some ⟨1914, 1, .on 1, .wall 0⟩⟩,
    ⟨-10800, .rules Rules.brazil, some ⟨2003, 9, .on 24, .wall 0⟩⟩,
    ⟨-10800, .fixed 0, some ⟨2011, 10, .on 16, .wall 0⟩⟩,
    ⟨-10800, .rules Rules.brazil, some ⟨2012, 10, .on 21, .wall 0⟩⟩, ⟨-10800, .fixed 0, none⟩]),
  ("America/Belem", [
    ⟨-11636, .fixed 0, some ⟨1914, 1, .on 1, .wall 0⟩⟩,
    ⟨-10800, .rules Rules.brazil, some ⟨1988, 9, .on 12, .wall 0⟩⟩, ⟨-10800, .fixed 0, none⟩]),
  ("America/Boa_Vista", [
    ⟨-14560, .fixed 0, some ⟨1914, 1, .on 1, .wall 0⟩⟩,
    ⟨-14400, .rules Rules.brazil, some ⟨1988, 9, .on 12, .wall 0⟩⟩,
    ⟨-14400, .fixed 0, some ⟨1999, 9, .on 30, .wall 0⟩⟩,
    ⟨-14400, .rules Rules.brazil, some ⟨2000, 10, .on 15, .wall 0⟩⟩, ⟨-14400, .fixed 0, none⟩]),
  ("America/Bogota", [
    ⟨-17776, .fixed 0, some ⟨1884, 3, .on 13, .wall 0⟩⟩,
    ⟨-17776, .fixed 0, some ⟨1914, 11, .on 23, .wall 0⟩⟩, ⟨-18000, .rules Rules.colombia, none⟩]),
  ("America/Campo_Grande", [
    ⟨-13108, .fixed 0, some ⟨1914, 1, .on 1, .wall 0⟩⟩, ⟨-14400, .rules Rules.brazil, none⟩]),
  ("America/Caracas", [
    ⟨-16064, .fixed 0, some ⟨1890, 1, .on 1, .wall 0⟩⟩,
    ⟨-16060, .fixed 0, some ⟨1912, 2, .on 12, .wall 0⟩⟩,
    ⟨-16200, .fixed 0, some ⟨1965, 1, .on 1, .wall 0⟩⟩,
    ⟨-14400, .fixed 0, some ⟨2007, 12, .on 9, .wall 10800⟩⟩,
    ⟨-16200, .fixed 0, some ⟨2016, 5, .on 1, .wall 9000⟩⟩, ⟨-14400, .fixed 0, none⟩]),
  ("America/Cayenne", [
    ⟨-12560, .fixed 0, some ⟨1911, 7, .on 1, .wall 0⟩⟩,
    ⟨-14400, .fixed 0, some ⟨1967, 10, .on 1, .wall 0⟩⟩, ⟨-10800, .fixed 0, none⟩]),
  ("America/Coyhaique", [
    ⟨-17296, .fixed 0, some ⟨1890, 1, .on 1, .wall 0⟩⟩,
    ⟨-16965, .fixed 0, some ⟨1910, 1, .on 10, .wall 0⟩⟩,
    ⟨-18000, .fixed 0, some ⟨1916, 7, .on 1, .wall 0⟩⟩,
    ⟨-16965, .fixed 0, some ⟨1918, 9, .on 10, .wall 0⟩⟩,
    ⟨-14400, .fixed 0, some ⟨1919, 7, .on 1, .wall 0⟩⟩,
    ⟨-16965, .fixed 0, some ⟨1927, 9, .on 1, .wall 0⟩⟩,
    ⟨-18000, .rules Rules.chile, some ⟨1932, 9, .on 1, .wall 0⟩⟩,
    ⟨-14400, .fixed 0, some ⟨1942, 6, .on 1, .wall 0⟩⟩,
    ⟨-18000, .fixed 0, some ⟨1942, 8, .on 1, .wall 0⟩⟩,
    ⟨-14400, .fixed 0, some ⟨1946, 8, .on 28, .wall 86400⟩⟩,
    ⟨-18000, .fixed 3600, some ⟨1947, 3, .on 31, .wall 86400⟩⟩,
    ⟨-18000, .fixed 0, some ⟨1947, 5, .on 21, .wall 82800⟩⟩,
    ⟨-14400, .rules Rules.chile, some ⟨2025, 3, .on 20, .wall 0⟩⟩, ⟨-10800, .fixed 0, none⟩]),
  ("America/Cuiaba", [
    ⟨-13460, .fixed 0, some ⟨1914, 1, .on 1, .wall 0⟩⟩,
    ⟨-14400, .rules Rules.brazil, some ⟨2003, 9, .on 24, .wall 0⟩⟩,
    ⟨-14400, .fixed 0, some ⟨2004, 10, .on 1, .wall 0⟩⟩, ⟨-14400, .rules Rules.brazil, none⟩]),
  ("America/Eirunepe", [
    ⟨-16768, .fixed 0, some ⟨1914, 1, .on 1, .wall 0⟩⟩,
    ⟨-18000, .rules Rules.brazil, some ⟨1988, 9, .on 12, .wall 0⟩⟩,
    ⟨-18000, .fixed 0, some ⟨1993, 9, .on 28, .wall 0⟩⟩,
    ⟨-18000, .rules Rules.brazil, some ⟨1994, 9, .on 22, .wall 0⟩⟩,
    ⟨-18000, .fixed 0, some ⟨2008, 6, .on 24, .wall 0⟩⟩,
    ⟨-14400, .fixed 0, some ⟨2013, 11, .on 10, .wall 0⟩⟩, ⟨-18000, .fixed 0, none⟩]),
  ("America/Fortaleza", [
    ⟨-9240, .fixed 0, some ⟨1914, 1, .on 1, .wall 0⟩⟩,
    ⟨-10800, .rules Rules.brazil, some ⟨1990, 9, .on 17, .wall 0⟩⟩,
    ⟨-10800, .fixed 0, some ⟨1999, 9, .on 30, .wall 0⟩⟩,
    ⟨-10800, .rules Rules.brazil, some ⟨2000, 10, .on 22, .wall 0⟩⟩,
    ⟨-10800, .fixed 0, some ⟨2001, 9, .on 13, .wall 0⟩⟩,
    ⟨-10800, .rules Rules.brazil, some ⟨2002, 10, .on 1, .wall 0⟩⟩, ⟨-10800, .fixed 0, none⟩]),
  ("America/Guayaquil", [
    ⟨-19160, .fixed 0, some ⟨1890, 1, .on 1, .wall 0⟩⟩,
    ⟨-18840, .fixed 0, some ⟨1931, 1, .on 1, .wall 0⟩⟩, ⟨-18000, .rules Rules.ecuador, none⟩]),
  ("America/Guyana", [
    ⟨-13959, .fixed 0, some ⟨1911, 8, .on 1, .wall 0⟩⟩,
    ⟨-14400, .fixed 0, some ⟨1915, 3, .on 1, .wall 0⟩⟩,
    ⟨-13500, .fixed 0, some ⟨1975, 8, .on 1, .wall 0⟩⟩,
    ⟨-10800, .fixed 0, some ⟨1992, 3, .on 29, .wall 3600⟩⟩, ⟨-14400, .fixed 0, none⟩]),
  ("America/La_Paz", [
    ⟨-16356, .fixed 0, some ⟨1890, 1, .on 1, .wall 0⟩⟩,
    ⟨-16356, .fixed 0, some ⟨1931, 10, .on 15, .wall 0⟩⟩,
    ⟨-16356, .fixed 3600, some ⟨1932, 3, .on 21, .wall 0⟩⟩, ⟨-14400, .fixed 0, none⟩]),
  ("America/Lima", [
    ⟨-18492, .fixed 0, some ⟨1890, 1, .on 1, .wall 0⟩⟩,
    ⟨-18516, .fixed 0, some ⟨1908, 7, .on 28, .wall 0⟩⟩, ⟨-18000, .rules Rules.peru, none⟩]),
  ("America/Maceio", [
    ⟨-8572, .fixed 0, some ⟨1914, 1, .on 1, .wall 0⟩⟩,
    ⟨-10800, .rules Rules.brazil, some ⟨1990, 9, .on 17, .wall 0⟩⟩,
    ⟨-10800, .fixed 0, some ⟨1995, 10, .on 13, .wall 0⟩⟩,
    ⟨-10800, .rules Rules.brazil, some ⟨1996, 9, .on 4, .wall 0⟩⟩,
    ⟨-10800, .fixed 0, some ⟨1999, 9, .on 30, .wall 0⟩⟩,
    ⟨-10800, .rules Rules.brazil, some ⟨2000, 10, .on 22, .wall 0⟩⟩,
    ⟨-10800, .fixed 0, some ⟨2001, 9, .on 13, .wall 0⟩⟩,
    ⟨-10800, .rules Rules.brazil, some ⟨2002, 10, .on 1, .wall 0⟩⟩, ⟨-10800, .fixed 0, none⟩]),
  ("America/Manaus", [
    ⟨-14404, .fixed 0, some ⟨1914, 1, .on 1, .wall 0⟩⟩,
    ⟨-14400, .rules Rules.brazil, some ⟨1988, 9, .on 12, .wall 0⟩⟩,
    ⟨-14400, .fixed 0, some ⟨1993, 9, .on 28, .wall 0⟩⟩,
    ⟨-14400, .rules Rules.brazil, some ⟨1994, 9, .on 22, .wall 0⟩⟩, ⟨-14400, .fixed 0, none⟩]),
  ("America/Montevideo", [
    ⟨-13491, .fixed 0, some ⟨1908, 6, .on 10, .wall 0⟩⟩,
    ⟨-13491, .fixed 0, some ⟨1920, 5, .on 1, .wall 0⟩⟩,
    ⟨-14400, .fixed 0, some ⟨1923, 10, .on 1, .wall 0⟩⟩,
    ⟨-12600, .rules Rules.uruguay, some ⟨1942, 12, .on 14, .wall 0⟩⟩,
    ⟨-10800, .rules Rules.uruguay, some ⟨1960, 1, .on 1, .wall 0⟩⟩,
    ⟨-10800, .rules Rules.uruguay, some ⟨1968, 1, .on 1, .wall 0⟩⟩,
    ⟨-10800, .rules Rules.uruguay, some ⟨1970, 1, .on 1, .wall 0⟩⟩,
    ⟨-10800, .rules Rules.uruguay, some ⟨1974, 1, .on 1, .wall 0⟩⟩,
    ⟨-10800, .rules Rules.uruguay, some ⟨1974, 3, .on 10, .wall 0⟩⟩,
    ⟨-10800, .rules Rules.uruguay, some ⟨1974, 12, .on 22, .wall 0⟩⟩,
    ⟨-10800, .rules Rules.uruguay, none⟩]),
  ("America/Noronha", [
    ⟨-7780, .fixed 0, some ⟨1914, 1, .on 1, .wall 0⟩⟩,
    ⟨-7200, .rules Rules.brazil, some ⟨1990, 9, .on 17, .wall 0⟩⟩,
    ⟨-7200, .fixed 0, some ⟨1999, 9, .on 30, .wall 0⟩⟩,
    ⟨-7200, .rules Rules.brazil, some ⟨2000, 10, .on 15, .wall 0⟩⟩,
    ⟨-7200, .fixed 0, some ⟨2001, 9, .on 13, .wall 0⟩⟩,
    ⟨-7200, .rules Rules.brazil, some ⟨2002, 10, .on 1, .wall 0⟩⟩, ⟨-7200, .fixed 0, none⟩]),
  ("America/Paramaribo", [
    ⟨-13240, .fixed 0, some ⟨1911, 1, .on 1, .wall 0⟩⟩,
    ⟨-13252, .fixed 0, some ⟨1935, 1, .on 1, .wall 0⟩⟩,
    ⟨-13236, .fixed 0, some ⟨1945, 10, .on 1, .wall 0⟩⟩,
    ⟨-12600, .fixed 0, some ⟨1984, 10, .on 1, .wall 0⟩⟩, ⟨-10800, .fixed 0, none⟩]),
  ("America/Porto_Velho", [
    ⟨-15336, .fixed 0, some ⟨1914, 1, .on 1, .wall 0⟩⟩,
    ⟨-14400, .rules Rules.brazil, some ⟨1988, 9, .on 12, .wall 0⟩⟩, ⟨-14400, .fixed 0, none⟩]),
  ("America/Punta_Arenas", [
    ⟨-17020, .fixed 0, some ⟨1890, 1, .on 1, .wall 0⟩⟩,
    ⟨-16965, .fixed 0, some ⟨1910, 1, .on 10, .wall 0⟩⟩,
    ⟨-18000, .fixed 0, some ⟨1916, 7, .on 1, .wall 0⟩⟩,
    ⟨-16965, .fixed 0, some ⟨1918, 9, .on 10, .wall 0⟩⟩,
    ⟨-14400, .fixed 0, some ⟨1919, 7, .on 1, .wall 0⟩⟩,
    ⟨-16965, .fixed 0, some ⟨1927, 9, .on 1, .wall 0⟩⟩,
    ⟨-18000, .rules Rules.chile, some ⟨1932, 9, .on 1, .wall 0⟩⟩,
    ⟨-14400, .fixed 0, some ⟨1942, 6, .on 1, .wall 0⟩⟩,
    ⟨-18000, .fixed 0, some ⟨1942, 8, .on 1, .wall 0⟩⟩,
    ⟨-14400, .fixed 0, some ⟨1946, 8, .on 28, .wall 86400⟩⟩,
    ⟨-18000, .fixed 3600, some ⟨1947, 3, .on 31, .wall 86400⟩⟩,
    ⟨-18000, .fixed 0, some ⟨1947, 5, .on 21, .wall 82800⟩⟩,
    ⟨-14400, .rules Rules.chile, some ⟨2016, 12, .on 4, .wall 0⟩⟩, ⟨-10800, .fixed 0, none⟩]),
  ("America/Recife", [
    ⟨-8376, .fixed 0, some ⟨1914, 1, .on 1, .wall 0⟩⟩,
    ⟨-10800, .rules Rules.brazil, some ⟨1990, 9, .on 17, .wall 0⟩⟩,
    ⟨-10800, .fixed 0, some ⟨1999, 9, .on 30, .wall 0⟩⟩,
    ⟨-10800, .rules Rules.brazil, some ⟨2000, 10, .on 15, .wall 0⟩⟩,
    ⟨-10800, .fixed 0, some ⟨2001, 9, .on 13, .wall 0⟩⟩,
    ⟨-10800, .rules Rules.brazil, some ⟨2002, 10, .on 1, .wall 0⟩⟩, ⟨-10800, .fixed 0, none⟩]),
  ("America/Rio_Branco", [
    ⟨-16272, .fixed 0, some ⟨1914, 1, .on 1, .wall 0⟩⟩,
    ⟨-18000, .rules Rules.brazil, some ⟨1988, 9, .on 12, .wall 0⟩⟩,
    ⟨-18000, .fixed 0, some ⟨2008, 6, .on 24, .wall 0⟩⟩,
    ⟨-14400, .fixed 0, some ⟨2013, 11, .on 10, .wall 0⟩⟩, ⟨-18000, .fixed 0, none⟩]),
  ("America/Santarem", [
    ⟨-13128, .fixed 0, some ⟨1914, 1, .on 1, .wall 0⟩⟩,
    ⟨-14400, .rules Rules.brazil, some ⟨1988, 9, .on 12, .wall 0⟩⟩,
    ⟨-14400, .fixed 0, some ⟨2008, 6, .on 24, .wall 0⟩⟩, ⟨-10800, .fixed 0, none⟩]),
  ("America/Santiago", [
    ⟨-16965, .fixed 0, some ⟨1890, 1, .on 1, .wall 0⟩⟩,
    ⟨-16965, .fixed 0, some ⟨1910, 1, .on 10, .wall 0⟩⟩,
    ⟨-18000, .fixed 0, some ⟨1916, 7, .on 1, .wall 0⟩⟩,
    ⟨-16965, .fixed 0, some ⟨1918, 9, .on 10, .wall 0⟩⟩,
    ⟨-14400, .fixed 0, some ⟨1919, 7, .on 1, .wall 0⟩⟩,
    ⟨-16965, .fixed 0, some ⟨1927, 9, .on 1, .wall 0⟩⟩,
    ⟨-18000, .rules Rules.chile, some ⟨1932, 9, .on 1, .wall 0⟩⟩,
    ⟨-14400, .fixed 0, some ⟨1942, 6, .on 1, .wall 0⟩⟩,
    ⟨-18000, .fixed 0, some ⟨1942, 8, .on 1, .wall 0⟩⟩,
    ⟨-14400, .fixed 0, some ⟨1946, 7, .on 14, .wall 86400⟩⟩,
    ⟨-14400, .fixed 3600, some ⟨1946, 8, .on 28, .wall 86400⟩⟩,
    ⟨-18000, .fixed 3600, some ⟨1947, 3, .on 31, .wall 86400⟩⟩,
    ⟨-18000, .fixed 0, some ⟨1947, 5, .on 21, .wall 82800⟩⟩, ⟨-14400, .rules Rules.chile, none⟩]),
  ("America/Sao_Paulo", [
    ⟨-11188, .fixed 0, some ⟨1914, 1, .on 1, .wall 0⟩⟩,
    ⟨-10800, .rules Rules.brazil, some ⟨1963, 10, .on 23, .wall 0⟩⟩,
    ⟨-10800, .fixed 3600, some ⟨1964, 1, .on 1, .wall 0⟩⟩, ⟨-10800, .rules Rules.brazil, none⟩])]

end ForeignLayer.Calendar.Zones
