import ForeignLayer.Calendar.Zone.History

/-!
# Summer time in Australia and the Pacific

The rules of summer time of countries and places, from the public record of time zones.
-/

namespace ForeignLayer.Calendar.Rules

/-- The common rules of Australia. -/
def australia : List Rule := [
  ⟨1917, 1917, 1, .on 1, .standard 7200, 3600⟩, ⟨1917, 1917, 3, .last 6, .standard 7200, 0⟩,
  ⟨1942, 1942, 1, .on 1, .standard 7200, 3600⟩, ⟨1942, 1942, 3, .last 6, .standard 7200, 0⟩,
  ⟨1942, 1942, 9, .on 27, .standard 7200, 3600⟩, ⟨1943, 1944, 3, .last 6, .standard 7200, 0⟩,
  ⟨1943, 1943, 10, .on 3, .standard 7200, 3600⟩]

/-- The rules of Western Australia. -/
def westAustralia : List Rule := [
  ⟨1974, 1974, 10, .last 6, .standard 7200, 3600⟩, ⟨1975, 1975, 3, .since 6 1, .standard 7200, 0⟩,
  ⟨1983, 1983, 10, .last 6, .standard 7200, 3600⟩, ⟨1984, 1984, 3, .since 6 1, .standard 7200, 0⟩,
  ⟨1991, 1991, 11, .on 17, .standard 7200, 3600⟩, ⟨1992, 1992, 3, .since 6 1, .standard 7200, 0⟩,
  ⟨2006, 2006, 12, .on 3, .standard 7200, 3600⟩, ⟨2007, 2009, 3, .last 6, .standard 7200, 0⟩,
  ⟨2007, 2008, 10, .last 6, .standard 7200, 3600⟩]

/-- The rules of Queensland. -/
def queensland : List Rule := [
  ⟨1971, 1971, 10, .last 6, .standard 7200, 3600⟩, ⟨1972, 1972, 2, .last 6, .standard 7200, 0⟩,
  ⟨1989, 1991, 10, .last 6, .standard 7200, 3600⟩, ⟨1990, 1992, 3, .since 6 1, .standard 7200, 0⟩]

/-- The rules of the islands off Queensland. -/
def holidayIslands : List Rule := [
  ⟨1992, 1993, 10, .last 6, .standard 7200, 3600⟩, ⟨1993, 1994, 3, .since 6 1, .standard 7200, 0⟩]

/-- The rules of South Australia. -/
def southAustralia : List Rule := [
  ⟨1971, 1985, 10, .last 6, .standard 7200, 3600⟩, ⟨1986, 1986, 10, .on 19, .standard 7200, 3600⟩,
  ⟨1987, 2007, 10, .last 6, .standard 7200, 3600⟩, ⟨1972, 1972, 2, .on 27, .standard 7200, 0⟩,
  ⟨1973, 1985, 3, .since 6 1, .standard 7200, 0⟩, ⟨1986, 1990, 3, .since 6 15, .standard 7200, 0⟩,
  ⟨1991, 1991, 3, .on 3, .standard 7200, 0⟩, ⟨1992, 1992, 3, .on 22, .standard 7200, 0⟩,
  ⟨1993, 1993, 3, .on 7, .standard 7200, 0⟩, ⟨1994, 1994, 3, .on 20, .standard 7200, 0⟩,
  ⟨1995, 2005, 3, .last 6, .standard 7200, 0⟩, ⟨2006, 2006, 4, .on 2, .standard 7200, 0⟩,
  ⟨2007, 2007, 3, .last 6, .standard 7200, 0⟩, ⟨2008, 2099, 4, .since 6 1, .standard 7200, 0⟩,
  ⟨2008, 2099, 10, .since 6 1, .standard 7200, 3600⟩]

/-- The rules of Tasmania. -/
def tasmania : List Rule := [
  ⟨1916, 1916, 10, .since 6 1, .standard 7200, 3600⟩, ⟨1917, 1917, 3, .last 6, .standard 7200, 0⟩,
  ⟨1917, 1918, 10, .since 6 22, .standard 7200, 3600⟩,
  ⟨1918, 1919, 3, .since 6 1, .standard 7200, 0⟩,
  ⟨1967, 1967, 10, .since 6 1, .standard 7200, 3600⟩,
  ⟨1968, 1968, 3, .since 6 29, .standard 7200, 0⟩, ⟨1968, 1985, 10, .last 6, .standard 7200, 3600⟩,
  ⟨1969, 1971, 3, .since 6 8, .standard 7200, 0⟩, ⟨1972, 1972, 2, .last 6, .standard 7200, 0⟩,
  ⟨1973, 1981, 3, .since 6 1, .standard 7200, 0⟩, ⟨1982, 1983, 3, .last 6, .standard 7200, 0⟩,
  ⟨1984, 1986, 3, .since 6 1, .standard 7200, 0⟩,
  ⟨1986, 1986, 10, .since 6 15, .standard 7200, 3600⟩,
  ⟨1987, 1990, 3, .since 6 15, .standard 7200, 0⟩,
  ⟨1987, 1987, 10, .since 6 22, .standard 7200, 3600⟩,
  ⟨1988, 1990, 10, .last 6, .standard 7200, 3600⟩,
  ⟨1991, 1999, 10, .since 6 1, .standard 7200, 3600⟩, ⟨1991, 2005, 3, .last 6, .standard 7200, 0⟩,
  ⟨2000, 2000, 8, .last 6, .standard 7200, 3600⟩,
  ⟨2001, 2099, 10, .since 6 1, .standard 7200, 3600⟩,
  ⟨2006, 2006, 4, .since 6 1, .standard 7200, 0⟩, ⟨2007, 2007, 3, .last 6, .standard 7200, 0⟩,
  ⟨2008, 2099, 4, .since 6 1, .standard 7200, 0⟩]

/-- The rules of Victoria. -/
def victoria : List Rule := [
  ⟨1971, 1985, 10, .last 6, .standard 7200, 3600⟩, ⟨1972, 1972, 2, .last 6, .standard 7200, 0⟩,
  ⟨1973, 1985, 3, .since 6 1, .standard 7200, 0⟩, ⟨1986, 1990, 3, .since 6 15, .standard 7200, 0⟩,
  ⟨1986, 1987, 10, .since 6 15, .standard 7200, 3600⟩,
  ⟨1988, 1999, 10, .last 6, .standard 7200, 3600⟩, ⟨1991, 1994, 3, .since 6 1, .standard 7200, 0⟩,
  ⟨1995, 2005, 3, .last 6, .standard 7200, 0⟩, ⟨2000, 2000, 8, .last 6, .standard 7200, 3600⟩,
  ⟨2001, 2007, 10, .last 6, .standard 7200, 3600⟩, ⟨2006, 2006, 4, .since 6 1, .standard 7200, 0⟩,
  ⟨2007, 2007, 3, .last 6, .standard 7200, 0⟩, ⟨2008, 2099, 4, .since 6 1, .standard 7200, 0⟩,
  ⟨2008, 2099, 10, .since 6 1, .standard 7200, 3600⟩]

/-- The rules of New South Wales. -/
def newSouthWales : List Rule := [
  ⟨1971, 1985, 10, .last 6, .standard 7200, 3600⟩, ⟨1972, 1972, 2, .on 27, .standard 7200, 0⟩,
  ⟨1973, 1981, 3, .since 6 1, .standard 7200, 0⟩, ⟨1982, 1982, 4, .since 6 1, .standard 7200, 0⟩,
  ⟨1983, 1985, 3, .since 6 1, .standard 7200, 0⟩, ⟨1986, 1989, 3, .since 6 15, .standard 7200, 0⟩,
  ⟨1986, 1986, 10, .on 19, .standard 7200, 3600⟩, ⟨1987, 1999, 10, .last 6, .standard 7200, 3600⟩,
  ⟨1990, 1995, 3, .since 6 1, .standard 7200, 0⟩, ⟨1996, 2005, 3, .last 6, .standard 7200, 0⟩,
  ⟨2000, 2000, 8, .last 6, .standard 7200, 3600⟩, ⟨2001, 2007, 10, .last 6, .standard 7200, 3600⟩,
  ⟨2006, 2006, 4, .since 6 1, .standard 7200, 0⟩, ⟨2007, 2007, 3, .last 6, .standard 7200, 0⟩,
  ⟨2008, 2099, 4, .since 6 1, .standard 7200, 0⟩,
  ⟨2008, 2099, 10, .since 6 1, .standard 7200, 3600⟩]

/-- The rules of Lord Howe Island. -/
def lordHowe : List Rule := [
  ⟨1981, 1984, 10, .last 6, .wall 7200, 3600⟩, ⟨1982, 1985, 3, .since 6 1, .wall 7200, 0⟩,
  ⟨1985, 1985, 10, .last 6, .wall 7200, 1800⟩, ⟨1986, 1989, 3, .since 6 15, .wall 7200, 0⟩,
  ⟨1986, 1986, 10, .on 19, .wall 7200, 1800⟩, ⟨1987, 1999, 10, .last 6, .wall 7200, 1800⟩,
  ⟨1990, 1995, 3, .since 6 1, .wall 7200, 0⟩, ⟨1996, 2005, 3, .last 6, .wall 7200, 0⟩,
  ⟨2000, 2000, 8, .last 6, .wall 7200, 1800⟩, ⟨2001, 2007, 10, .last 6, .wall 7200, 1800⟩,
  ⟨2006, 2006, 4, .since 6 1, .wall 7200, 0⟩, ⟨2007, 2007, 3, .last 6, .wall 7200, 0⟩,
  ⟨2008, 2099, 4, .since 6 1, .wall 7200, 0⟩, ⟨2008, 2099, 10, .since 6 1, .wall 7200, 1800⟩]

/-- The rules of Fiji. -/
def fiji : List Rule := [
  ⟨1998, 1999, 11, .since 6 1, .wall 7200, 3600⟩, ⟨1999, 2000, 2, .last 6, .wall 10800, 0⟩,
  ⟨2009, 2009, 11, .on 29, .wall 7200, 3600⟩, ⟨2010, 2010, 3, .last 6, .wall 10800, 0⟩,
  ⟨2010, 2013, 10, .since 6 21, .wall 7200, 3600⟩, ⟨2011, 2011, 3, .since 6 1, .wall 10800, 0⟩,
  ⟨2012, 2013, 1, .since 6 18, .wall 10800, 0⟩, ⟨2014, 2014, 1, .since 6 18, .wall 7200, 0⟩,
  ⟨2014, 2018, 11, .since 6 1, .wall 7200, 3600⟩, ⟨2015, 2021, 1, .since 6 12, .wall 10800, 0⟩,
  ⟨2019, 2019, 11, .since 6 8, .wall 7200, 3600⟩, ⟨2020, 2020, 12, .on 20, .wall 7200, 3600⟩]

/-- The rules of Guam. -/
def guam : List Rule := [
  ⟨1959, 1959, 6, .on 27, .wall 7200, 3600⟩, ⟨1961, 1961, 1, .on 29, .wall 7200, 0⟩,
  ⟨1967, 1967, 9, .on 1, .wall 7200, 3600⟩, ⟨1969, 1969, 1, .on 26, .wall 60, 0⟩,
  ⟨1969, 1969, 6, .on 22, .wall 7200, 3600⟩, ⟨1969, 1969, 8, .on 31, .wall 7200, 0⟩,
  ⟨1970, 1971, 4, .last 6, .wall 7200, 3600⟩, ⟨1970, 1971, 9, .since 6 1, .wall 7200, 0⟩,
  ⟨1973, 1973, 12, .on 16, .wall 7200, 3600⟩, ⟨1974, 1974, 2, .on 24, .wall 7200, 0⟩,
  ⟨1976, 1976, 5, .on 26, .wall 7200, 3600⟩, ⟨1976, 1976, 8, .on 22, .wall 7260, 0⟩,
  ⟨1977, 1977, 4, .on 24, .wall 7200, 3600⟩, ⟨1977, 1977, 8, .on 28, .wall 7200, 0⟩]

/-- The rules of New Caledonia. -/
def newCaledonia : List Rule := [
  ⟨1977, 1978, 12, .since 6 1, .wall 0, 3600⟩, ⟨1978, 1979, 2, .on 27, .wall 0, 0⟩,
  ⟨1996, 1996, 12, .on 1, .standard 7200, 3600⟩, ⟨1997, 1997, 3, .on 2, .standard 7200, 0⟩]

/-- The rules of New Zealand. -/
def newZealand : List Rule := [
  ⟨1927, 1927, 11, .on 6, .wall 7200, 3600⟩, ⟨1928, 1928, 3, .on 4, .wall 7200, 0⟩,
  ⟨1928, 1933, 10, .since 6 8, .wall 7200, 1800⟩, ⟨1929, 1933, 3, .since 6 15, .wall 7200, 0⟩,
  ⟨1934, 1940, 4, .last 6, .wall 7200, 0⟩, ⟨1934, 1940, 9, .last 6, .wall 7200, 1800⟩,
  ⟨1946, 1946, 1, .on 1, .wall 0, 0⟩, ⟨1974, 1974, 11, .since 6 1, .standard 7200, 3600⟩,
  ⟨1975, 1975, 2, .last 6, .standard 7200, 0⟩, ⟨1975, 1988, 10, .last 6, .standard 7200, 3600⟩,
  ⟨1976, 1989, 3, .since 6 1, .standard 7200, 0⟩,
  ⟨1989, 1989, 10, .since 6 8, .standard 7200, 3600⟩,
  ⟨1990, 2006, 10, .since 6 1, .standard 7200, 3600⟩,
  ⟨1990, 2007, 3, .since 6 15, .standard 7200, 0⟩, ⟨2007, 2099, 9, .last 6, .standard 7200, 3600⟩,
  ⟨2008, 2099, 4, .since 6 1, .standard 7200, 0⟩]

/-- The rules of the Chatham Islands. -/
def chatham : List Rule := [
  ⟨1974, 1974, 11, .since 6 1, .standard 9900, 3600⟩, ⟨1975, 1975, 2, .last 6, .standard 9900, 0⟩,
  ⟨1975, 1988, 10, .last 6, .standard 9900, 3600⟩, ⟨1976, 1989, 3, .since 6 1, .standard 9900, 0⟩,
  ⟨1989, 1989, 10, .since 6 8, .standard 9900, 3600⟩,
  ⟨1990, 2006, 10, .since 6 1, .standard 9900, 3600⟩,
  ⟨1990, 2007, 3, .since 6 15, .standard 9900, 0⟩, ⟨2007, 2099, 9, .last 6, .standard 9900, 3600⟩,
  ⟨2008, 2099, 4, .since 6 1, .standard 9900, 0⟩]

/-- The rules of the Cook Islands. -/
def cookIslands : List Rule := [
  ⟨1978, 1978, 11, .on 12, .wall 0, 1800⟩, ⟨1979, 1991, 3, .since 6 1, .wall 0, 0⟩,
  ⟨1979, 1990, 10, .last 6, .wall 0, 1800⟩]

/-- The rules of Samoa. -/
def samoa : List Rule := [
  ⟨2010, 2010, 9, .last 6, .wall 0, 3600⟩, ⟨2011, 2011, 4, .since 5 1, .wall 14400, 0⟩,
  ⟨2011, 2011, 9, .last 5, .wall 10800, 3600⟩, ⟨2012, 2021, 4, .since 6 1, .wall 14400, 0⟩,
  ⟨2012, 2020, 9, .last 6, .wall 10800, 3600⟩]

/-- The rules of Tonga. -/
def tonga : List Rule := [
  ⟨1999, 1999, 10, .on 7, .standard 7200, 3600⟩, ⟨2000, 2000, 3, .on 19, .standard 7200, 0⟩,
  ⟨2000, 2001, 11, .since 6 1, .wall 7200, 3600⟩, ⟨2001, 2002, 1, .last 6, .wall 7200, 0⟩,
  ⟨2016, 2016, 11, .since 6 1, .wall 7200, 3600⟩, ⟨2017, 2017, 1, .since 6 15, .wall 10800, 0⟩]

/-- The rules of Vanuatu. -/
def vanuatu : List Rule := [
  ⟨1973, 1973, 12, .on 22, .universal 43200, 3600⟩, ⟨1974, 1974, 3, .on 30, .universal 43200, 0⟩,
  ⟨1983, 1991, 9, .since 5 22, .wall 86400, 3600⟩, ⟨1984, 1991, 3, .since 5 22, .wall 86400, 0⟩,
  ⟨1992, 1993, 1, .since 5 22, .wall 86400, 0⟩, ⟨1992, 1992, 10, .since 5 22, .wall 86400, 3600⟩]

end ForeignLayer.Calendar.Rules
