import ForeignLayer.Calendar.Zone.History

/-!
# Summer time in South America

The rules of summer time of countries and places, from the public record of time zones.
-/

namespace ForeignLayer.Calendar.Rules

/-- The rules of Argentina. -/
def argentina : List Rule := [
  ⟨1930, 1930, 12, .on 1, .wall 0, 3600⟩, ⟨1931, 1931, 4, .on 1, .wall 0, 0⟩,
  ⟨1931, 1931, 10, .on 15, .wall 0, 3600⟩, ⟨1932, 1940, 3, .on 1, .wall 0, 0⟩,
  ⟨1932, 1939, 11, .on 1, .wall 0, 3600⟩, ⟨1940, 1940, 7, .on 1, .wall 0, 3600⟩,
  ⟨1941, 1941, 6, .on 15, .wall 0, 0⟩, ⟨1941, 1941, 10, .on 15, .wall 0, 3600⟩,
  ⟨1943, 1943, 8, .on 1, .wall 0, 0⟩, ⟨1943, 1943, 10, .on 15, .wall 0, 3600⟩,
  ⟨1946, 1946, 3, .on 1, .wall 0, 0⟩, ⟨1946, 1946, 10, .on 1, .wall 0, 3600⟩,
  ⟨1963, 1963, 10, .on 1, .wall 0, 0⟩, ⟨1963, 1963, 12, .on 15, .wall 0, 3600⟩,
  ⟨1964, 1966, 3, .on 1, .wall 0, 0⟩, ⟨1964, 1966, 10, .on 15, .wall 0, 3600⟩,
  ⟨1967, 1967, 4, .on 2, .wall 0, 0⟩, ⟨1967, 1968, 10, .since 6 1, .wall 0, 3600⟩,
  ⟨1968, 1969, 4, .since 6 1, .wall 0, 0⟩, ⟨1974, 1974, 1, .on 23, .wall 0, 3600⟩,
  ⟨1974, 1974, 5, .on 1, .wall 0, 0⟩, ⟨1988, 1988, 12, .on 1, .wall 0, 3600⟩,
  ⟨1989, 1993, 3, .since 6 1, .wall 0, 0⟩, ⟨1989, 1992, 10, .since 6 15, .wall 0, 3600⟩,
  ⟨1999, 1999, 10, .since 6 1, .wall 0, 3600⟩, ⟨2000, 2000, 3, .on 3, .wall 0, 0⟩,
  ⟨2007, 2007, 12, .on 30, .wall 0, 3600⟩, ⟨2008, 2009, 3, .since 6 15, .wall 0, 0⟩,
  ⟨2008, 2008, 10, .since 6 15, .wall 0, 3600⟩]

/-- The rules of San Luis. -/
def sanLuis : List Rule := [
  ⟨2008, 2009, 3, .since 6 8, .wall 0, 0⟩, ⟨2007, 2008, 10, .since 6 8, .wall 0, 3600⟩]

/-- The rules of Brazil. -/
def brazil : List Rule := [
  ⟨1931, 1931, 10, .on 3, .wall 39600, 3600⟩, ⟨1932, 1933, 4, .on 1, .wall 0, 0⟩,
  ⟨1932, 1932, 10, .on 3, .wall 0, 3600⟩, ⟨1949, 1952, 12, .on 1, .wall 0, 3600⟩,
  ⟨1950, 1950, 4, .on 16, .wall 3600, 0⟩, ⟨1951, 1952, 4, .on 1, .wall 0, 0⟩,
  ⟨1953, 1953, 3, .on 1, .wall 0, 0⟩, ⟨1963, 1963, 12, .on 9, .wall 0, 3600⟩,
  ⟨1964, 1964, 3, .on 1, .wall 0, 0⟩, ⟨1965, 1965, 1, .on 31, .wall 0, 3600⟩,
  ⟨1965, 1965, 3, .on 31, .wall 0, 0⟩, ⟨1965, 1965, 12, .on 1, .wall 0, 3600⟩,
  ⟨1966, 1968, 3, .on 1, .wall 0, 0⟩, ⟨1966, 1967, 11, .on 1, .wall 0, 3600⟩,
  ⟨1985, 1985, 11, .on 2, .wall 0, 3600⟩, ⟨1986, 1986, 3, .on 15, .wall 0, 0⟩,
  ⟨1986, 1986, 10, .on 25, .wall 0, 3600⟩, ⟨1987, 1987, 2, .on 14, .wall 0, 0⟩,
  ⟨1987, 1987, 10, .on 25, .wall 0, 3600⟩, ⟨1988, 1988, 2, .on 7, .wall 0, 0⟩,
  ⟨1988, 1988, 10, .on 16, .wall 0, 3600⟩, ⟨1989, 1989, 1, .on 29, .wall 0, 0⟩,
  ⟨1989, 1989, 10, .on 15, .wall 0, 3600⟩, ⟨1990, 1990, 2, .on 11, .wall 0, 0⟩,
  ⟨1990, 1990, 10, .on 21, .wall 0, 3600⟩, ⟨1991, 1991, 2, .on 17, .wall 0, 0⟩,
  ⟨1991, 1991, 10, .on 20, .wall 0, 3600⟩, ⟨1992, 1992, 2, .on 9, .wall 0, 0⟩,
  ⟨1992, 1992, 10, .on 25, .wall 0, 3600⟩, ⟨1993, 1993, 1, .on 31, .wall 0, 0⟩,
  ⟨1993, 1995, 10, .since 6 11, .wall 0, 3600⟩, ⟨1994, 1995, 2, .since 6 15, .wall 0, 0⟩,
  ⟨1996, 1996, 2, .on 11, .wall 0, 0⟩, ⟨1996, 1996, 10, .on 6, .wall 0, 3600⟩,
  ⟨1997, 1997, 2, .on 16, .wall 0, 0⟩, ⟨1997, 1997, 10, .on 6, .wall 0, 3600⟩,
  ⟨1998, 1998, 3, .on 1, .wall 0, 0⟩, ⟨1998, 1998, 10, .on 11, .wall 0, 3600⟩,
  ⟨1999, 1999, 2, .on 21, .wall 0, 0⟩, ⟨1999, 1999, 10, .on 3, .wall 0, 3600⟩,
  ⟨2000, 2000, 2, .on 27, .wall 0, 0⟩, ⟨2000, 2001, 10, .since 6 8, .wall 0, 3600⟩,
  ⟨2001, 2006, 2, .since 6 15, .wall 0, 0⟩, ⟨2002, 2002, 11, .on 3, .wall 0, 3600⟩,
  ⟨2003, 2003, 10, .on 19, .wall 0, 3600⟩, ⟨2004, 2004, 11, .on 2, .wall 0, 3600⟩,
  ⟨2005, 2005, 10, .on 16, .wall 0, 3600⟩, ⟨2006, 2006, 11, .on 5, .wall 0, 3600⟩,
  ⟨2007, 2007, 2, .on 25, .wall 0, 0⟩, ⟨2007, 2007, 10, .since 6 8, .wall 0, 3600⟩,
  ⟨2008, 2017, 10, .since 6 15, .wall 0, 3600⟩, ⟨2008, 2011, 2, .since 6 15, .wall 0, 0⟩,
  ⟨2012, 2012, 2, .since 6 22, .wall 0, 0⟩, ⟨2013, 2014, 2, .since 6 15, .wall 0, 0⟩,
  ⟨2015, 2015, 2, .since 6 22, .wall 0, 0⟩, ⟨2016, 2019, 2, .since 6 15, .wall 0, 0⟩,
  ⟨2018, 2018, 11, .since 6 1, .wall 0, 3600⟩]

/-- The rules of Chile. -/
def chile : List Rule := [
  ⟨1927, 1931, 9, .on 1, .wall 0, 3600⟩, ⟨1928, 1932, 4, .on 1, .wall 0, 0⟩,
  ⟨1968, 1968, 11, .on 3, .universal 14400, 3600⟩, ⟨1969, 1969, 3, .on 30, .universal 10800, 0⟩,
  ⟨1969, 1969, 11, .on 23, .universal 14400, 3600⟩, ⟨1970, 1970, 3, .on 29, .universal 10800, 0⟩,
  ⟨1971, 1971, 3, .on 14, .universal 10800, 0⟩,
  ⟨1970, 1972, 10, .since 6 9, .universal 14400, 3600⟩,
  ⟨1972, 1986, 3, .since 6 9, .universal 10800, 0⟩, ⟨1973, 1973, 9, .on 30, .universal 14400, 3600⟩,
  ⟨1974, 1987, 10, .since 6 9, .universal 14400, 3600⟩,
  ⟨1987, 1987, 4, .on 12, .universal 10800, 0⟩, ⟨1988, 1990, 3, .since 6 9, .universal 10800, 0⟩,
  ⟨1988, 1989, 10, .since 6 9, .universal 14400, 3600⟩,
  ⟨1990, 1990, 9, .on 16, .universal 14400, 3600⟩, ⟨1991, 1996, 3, .since 6 9, .universal 10800, 0⟩,
  ⟨1991, 1997, 10, .since 6 9, .universal 14400, 3600⟩,
  ⟨1997, 1997, 3, .on 30, .universal 10800, 0⟩, ⟨1998, 1998, 3, .since 6 9, .universal 10800, 0⟩,
  ⟨1998, 1998, 9, .on 27, .universal 14400, 3600⟩, ⟨1999, 1999, 4, .on 4, .universal 10800, 0⟩,
  ⟨1999, 2010, 10, .since 6 9, .universal 14400, 3600⟩,
  ⟨2000, 2007, 3, .since 6 9, .universal 10800, 0⟩, ⟨2008, 2008, 3, .on 30, .universal 10800, 0⟩,
  ⟨2009, 2009, 3, .since 6 9, .universal 10800, 0⟩,
  ⟨2010, 2010, 4, .since 6 1, .universal 10800, 0⟩,
  ⟨2011, 2011, 5, .since 6 2, .universal 10800, 0⟩,
  ⟨2011, 2011, 8, .since 6 16, .universal 14400, 3600⟩,
  ⟨2012, 2014, 4, .since 6 23, .universal 10800, 0⟩,
  ⟨2012, 2014, 9, .since 6 2, .universal 14400, 3600⟩,
  ⟨2016, 2018, 5, .since 6 9, .universal 10800, 0⟩,
  ⟨2016, 2018, 8, .since 6 9, .universal 14400, 3600⟩,
  ⟨2019, 2099, 4, .since 6 2, .universal 10800, 0⟩,
  ⟨2019, 2021, 9, .since 6 2, .universal 14400, 3600⟩,
  ⟨2022, 2022, 9, .since 6 9, .universal 14400, 3600⟩,
  ⟨2023, 2099, 9, .since 6 2, .universal 14400, 3600⟩]

/-- The rules of Colombia. -/
def colombia : List Rule := [
  ⟨1992, 1992, 5, .on 3, .wall 0, 3600⟩, ⟨1993, 1993, 2, .on 6, .wall 86400, 0⟩]

/-- The rules of Ecuador. -/
def ecuador : List Rule := [
  ⟨1992, 1992, 11, .on 28, .wall 0, 3600⟩, ⟨1993, 1993, 2, .on 5, .wall 0, 0⟩]

/-- The rules of the Falkland Islands. -/
def falklands : List Rule := [
  ⟨1937, 1938, 9, .last 6, .wall 0, 3600⟩, ⟨1938, 1942, 3, .since 6 19, .wall 0, 0⟩,
  ⟨1939, 1939, 10, .on 1, .wall 0, 3600⟩, ⟨1940, 1942, 9, .last 6, .wall 0, 3600⟩,
  ⟨1943, 1943, 1, .on 1, .wall 0, 0⟩, ⟨1983, 1983, 9, .last 6, .wall 0, 3600⟩,
  ⟨1984, 1985, 4, .last 6, .wall 0, 0⟩, ⟨1984, 1984, 9, .on 16, .wall 0, 3600⟩,
  ⟨1985, 2000, 9, .since 6 9, .wall 0, 3600⟩, ⟨1986, 2000, 4, .since 6 16, .wall 0, 0⟩,
  ⟨2001, 2010, 4, .since 6 15, .wall 7200, 0⟩, ⟨2001, 2010, 9, .since 6 1, .wall 7200, 3600⟩]

/-- The rules of Paraguay. -/
def paraguay : List Rule := [
  ⟨1975, 1988, 10, .on 1, .wall 0, 3600⟩, ⟨1975, 1978, 3, .on 1, .wall 0, 0⟩,
  ⟨1979, 1991, 4, .on 1, .wall 0, 0⟩, ⟨1989, 1989, 10, .on 22, .wall 0, 3600⟩,
  ⟨1990, 1990, 10, .on 1, .wall 0, 3600⟩, ⟨1991, 1991, 10, .on 6, .wall 0, 3600⟩,
  ⟨1992, 1992, 3, .on 1, .wall 0, 0⟩, ⟨1992, 1992, 10, .on 5, .wall 0, 3600⟩,
  ⟨1993, 1993, 3, .on 31, .wall 0, 0⟩, ⟨1993, 1995, 10, .on 1, .wall 0, 3600⟩,
  ⟨1994, 1995, 2, .last 6, .wall 0, 0⟩, ⟨1996, 1996, 3, .on 1, .wall 0, 0⟩,
  ⟨1996, 2001, 10, .since 6 1, .wall 0, 3600⟩, ⟨1997, 1997, 2, .last 6, .wall 0, 0⟩,
  ⟨1998, 2001, 3, .since 6 1, .wall 0, 0⟩, ⟨2002, 2004, 4, .since 6 1, .wall 0, 0⟩,
  ⟨2002, 2003, 9, .since 6 1, .wall 0, 3600⟩, ⟨2004, 2009, 10, .since 6 15, .wall 0, 3600⟩,
  ⟨2005, 2009, 3, .since 6 8, .wall 0, 0⟩, ⟨2010, 2024, 10, .since 6 1, .wall 0, 3600⟩,
  ⟨2010, 2012, 4, .since 6 8, .wall 0, 0⟩, ⟨2013, 2024, 3, .since 6 22, .wall 0, 0⟩]

/-- The rules of Peru. -/
def peru : List Rule := [
  ⟨1938, 1938, 1, .on 1, .wall 0, 3600⟩, ⟨1938, 1938, 4, .on 1, .wall 0, 0⟩,
  ⟨1938, 1939, 9, .last 6, .wall 0, 3600⟩, ⟨1939, 1940, 3, .since 6 24, .wall 0, 0⟩,
  ⟨1986, 1987, 1, .on 1, .wall 0, 3600⟩, ⟨1986, 1987, 4, .on 1, .wall 0, 0⟩,
  ⟨1990, 1990, 1, .on 1, .wall 0, 3600⟩, ⟨1990, 1990, 4, .on 1, .wall 0, 0⟩,
  ⟨1994, 1994, 1, .on 1, .wall 0, 3600⟩, ⟨1994, 1994, 4, .on 1, .wall 0, 0⟩]

/-- The rules of Uruguay. -/
def uruguay : List Rule := [
  ⟨1923, 1925, 10, .on 1, .wall 0, 1800⟩, ⟨1924, 1926, 4, .on 1, .wall 0, 0⟩,
  ⟨1933, 1938, 10, .last 6, .wall 0, 1800⟩, ⟨1934, 1941, 3, .last 5, .wall 86400, 0⟩,
  ⟨1939, 1939, 10, .on 1, .wall 0, 1800⟩, ⟨1940, 1940, 10, .on 27, .wall 0, 1800⟩,
  ⟨1941, 1941, 8, .on 1, .wall 0, 1800⟩, ⟨1942, 1942, 12, .on 14, .wall 0, 1800⟩,
  ⟨1943, 1943, 3, .on 14, .wall 0, 0⟩, ⟨1959, 1959, 5, .on 24, .wall 0, 1800⟩,
  ⟨1959, 1959, 11, .on 15, .wall 0, 0⟩, ⟨1960, 1960, 1, .on 17, .wall 0, 3600⟩,
  ⟨1960, 1960, 3, .on 6, .wall 0, 0⟩, ⟨1965, 1965, 4, .on 4, .wall 0, 3600⟩,
  ⟨1965, 1965, 9, .on 26, .wall 0, 0⟩, ⟨1968, 1968, 5, .on 27, .wall 0, 1800⟩,
  ⟨1968, 1968, 12, .on 1, .wall 0, 0⟩, ⟨1970, 1970, 4, .on 25, .wall 0, 3600⟩,
  ⟨1970, 1970, 6, .on 14, .wall 0, 0⟩, ⟨1972, 1972, 4, .on 23, .wall 0, 3600⟩,
  ⟨1972, 1972, 7, .on 16, .wall 0, 0⟩, ⟨1974, 1974, 1, .on 13, .wall 0, 5400⟩,
  ⟨1974, 1974, 3, .on 10, .wall 0, 1800⟩, ⟨1974, 1974, 9, .on 1, .wall 0, 0⟩,
  ⟨1974, 1974, 12, .on 22, .wall 0, 3600⟩, ⟨1975, 1975, 3, .on 30, .wall 0, 0⟩,
  ⟨1976, 1976, 12, .on 19, .wall 0, 3600⟩, ⟨1977, 1977, 3, .on 6, .wall 0, 0⟩,
  ⟨1977, 1977, 12, .on 4, .wall 0, 3600⟩, ⟨1978, 1979, 3, .since 6 1, .wall 0, 0⟩,
  ⟨1978, 1978, 12, .on 17, .wall 0, 3600⟩, ⟨1979, 1979, 4, .on 29, .wall 0, 3600⟩,
  ⟨1980, 1980, 3, .on 16, .wall 0, 0⟩, ⟨1987, 1987, 12, .on 14, .wall 0, 3600⟩,
  ⟨1988, 1988, 2, .on 28, .wall 0, 0⟩, ⟨1988, 1988, 12, .on 11, .wall 0, 3600⟩,
  ⟨1989, 1989, 3, .on 5, .wall 0, 0⟩, ⟨1989, 1989, 10, .on 29, .wall 0, 3600⟩,
  ⟨1990, 1990, 2, .on 25, .wall 0, 0⟩, ⟨1990, 1991, 10, .since 6 21, .wall 0, 3600⟩,
  ⟨1991, 1992, 3, .since 6 1, .wall 0, 0⟩, ⟨1992, 1992, 10, .on 18, .wall 0, 3600⟩,
  ⟨1993, 1993, 2, .on 28, .wall 0, 0⟩, ⟨2004, 2004, 9, .on 19, .wall 0, 3600⟩,
  ⟨2005, 2005, 3, .on 27, .wall 7200, 0⟩, ⟨2005, 2005, 10, .on 9, .wall 7200, 3600⟩,
  ⟨2006, 2015, 3, .since 6 8, .wall 7200, 0⟩, ⟨2006, 2014, 10, .since 6 1, .wall 7200, 3600⟩]

end ForeignLayer.Calendar.Rules
