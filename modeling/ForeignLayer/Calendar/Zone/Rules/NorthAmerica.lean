import ForeignLayer.Calendar.Zone.History

/-!
# Summer time in North America

The rules of summer time of countries and places, from the public record of time zones.
-/

namespace ForeignLayer.Calendar.Rules

/-- The rules of Thule. -/
def thule : List Rule := [
  ⟨1991, 1992, 3, .last 6, .wall 7200, 3600⟩, ⟨1991, 1992, 9, .last 6, .wall 7200, 0⟩,
  ⟨1993, 2006, 4, .since 6 1, .wall 7200, 3600⟩, ⟨1993, 2006, 10, .last 6, .wall 7200, 0⟩,
  ⟨2007, 2099, 3, .since 6 8, .wall 7200, 3600⟩, ⟨2007, 2099, 11, .since 6 1, .wall 7200, 0⟩]

/-- The common rules of the United States. -/
def unitedStates : List Rule := [
  ⟨1918, 1919, 3, .last 6, .wall 7200, 3600⟩, ⟨1918, 1919, 10, .last 6, .wall 7200, 0⟩,
  ⟨1942, 1942, 2, .on 9, .wall 7200, 3600⟩, ⟨1945, 1945, 8, .on 14, .universal 82800, 3600⟩,
  ⟨1945, 1945, 9, .on 30, .wall 7200, 0⟩, ⟨1967, 2006, 10, .last 6, .wall 7200, 0⟩,
  ⟨1967, 1973, 4, .last 6, .wall 7200, 3600⟩, ⟨1974, 1974, 1, .on 6, .wall 7200, 3600⟩,
  ⟨1975, 1975, 2, .last 6, .wall 7200, 3600⟩, ⟨1976, 1986, 4, .last 6, .wall 7200, 3600⟩,
  ⟨1987, 2006, 4, .since 6 1, .wall 7200, 3600⟩, ⟨2007, 2099, 3, .since 6 8, .wall 7200, 3600⟩,
  ⟨2007, 2099, 11, .since 6 1, .wall 7200, 0⟩]

/-- The rules of New York. -/
def newYork : List Rule := [
  ⟨1920, 1920, 3, .last 6, .wall 7200, 3600⟩, ⟨1920, 1920, 10, .last 6, .wall 7200, 0⟩,
  ⟨1921, 1966, 4, .last 6, .wall 7200, 3600⟩, ⟨1921, 1954, 9, .last 6, .wall 7200, 0⟩,
  ⟨1955, 1966, 10, .last 6, .wall 7200, 0⟩]

/-- The rules of Chicago. -/
def chicago : List Rule := [
  ⟨1920, 1920, 6, .on 13, .wall 7200, 3600⟩, ⟨1920, 1921, 10, .last 6, .wall 7200, 0⟩,
  ⟨1921, 1921, 3, .last 6, .wall 7200, 3600⟩, ⟨1922, 1966, 4, .last 6, .wall 7200, 3600⟩,
  ⟨1922, 1954, 9, .last 6, .wall 7200, 0⟩, ⟨1955, 1966, 10, .last 6, .wall 7200, 0⟩]

/-- The rules of Denver. -/
def denver : List Rule := [
  ⟨1920, 1921, 3, .last 6, .wall 7200, 3600⟩, ⟨1920, 1920, 10, .last 6, .wall 7200, 0⟩,
  ⟨1921, 1921, 5, .on 22, .wall 7200, 0⟩, ⟨1965, 1966, 4, .last 6, .wall 7200, 3600⟩,
  ⟨1965, 1966, 10, .last 6, .wall 7200, 0⟩]

/-- The rules of California. -/
def california : List Rule := [
  ⟨1948, 1948, 3, .on 14, .wall 7260, 3600⟩, ⟨1949, 1949, 1, .on 1, .wall 7200, 0⟩,
  ⟨1950, 1966, 4, .last 6, .wall 3600, 3600⟩, ⟨1950, 1961, 9, .last 6, .wall 7200, 0⟩,
  ⟨1962, 1966, 10, .last 6, .wall 7200, 0⟩]

/-- The rules of Indianapolis. -/
def indianapolis : List Rule := [
  ⟨1941, 1941, 6, .on 22, .wall 7200, 3600⟩, ⟨1941, 1954, 9, .last 6, .wall 7200, 0⟩,
  ⟨1946, 1954, 4, .last 6, .wall 7200, 3600⟩]

/-- The rules of Marengo. -/
def marengo : List Rule := [
  ⟨1951, 1951, 4, .last 6, .wall 7200, 3600⟩, ⟨1951, 1951, 9, .last 6, .wall 7200, 0⟩,
  ⟨1954, 1960, 4, .last 6, .wall 7200, 3600⟩, ⟨1954, 1960, 9, .last 6, .wall 7200, 0⟩]

/-- The rules of Vincennes. -/
def vincennes : List Rule := [
  ⟨1946, 1946, 4, .last 6, .wall 7200, 3600⟩, ⟨1946, 1946, 9, .last 6, .wall 7200, 0⟩,
  ⟨1953, 1954, 4, .last 6, .wall 7200, 3600⟩, ⟨1953, 1959, 9, .last 6, .wall 7200, 0⟩,
  ⟨1955, 1955, 5, .on 1, .wall 0, 3600⟩, ⟨1956, 1963, 4, .last 6, .wall 7200, 3600⟩,
  ⟨1960, 1960, 10, .last 6, .wall 7200, 0⟩, ⟨1961, 1961, 9, .last 6, .wall 7200, 0⟩,
  ⟨1962, 1963, 10, .last 6, .wall 7200, 0⟩]

/-- The rules of Perry County in Indiana. -/
def perry : List Rule := [
  ⟨1955, 1955, 5, .on 1, .wall 0, 3600⟩, ⟨1955, 1960, 9, .last 6, .wall 7200, 0⟩,
  ⟨1956, 1963, 4, .last 6, .wall 7200, 3600⟩, ⟨1961, 1963, 10, .last 6, .wall 7200, 0⟩]

/-- The rules of Pike County in Indiana. -/
def pike : List Rule := [
  ⟨1955, 1955, 5, .on 1, .wall 0, 3600⟩, ⟨1955, 1960, 9, .last 6, .wall 7200, 0⟩,
  ⟨1956, 1964, 4, .last 6, .wall 7200, 3600⟩, ⟨1961, 1964, 10, .last 6, .wall 7200, 0⟩]

/-- The rules of Starke County in Indiana. -/
def starke : List Rule := [
  ⟨1947, 1961, 4, .last 6, .wall 7200, 3600⟩, ⟨1947, 1954, 9, .last 6, .wall 7200, 0⟩,
  ⟨1955, 1956, 10, .last 6, .wall 7200, 0⟩, ⟨1957, 1958, 9, .last 6, .wall 7200, 0⟩,
  ⟨1959, 1961, 10, .last 6, .wall 7200, 0⟩]

/-- The rules of Pulaski County in Indiana. -/
def pulaski : List Rule := [
  ⟨1946, 1960, 4, .last 6, .wall 7200, 3600⟩, ⟨1946, 1954, 9, .last 6, .wall 7200, 0⟩,
  ⟨1955, 1956, 10, .last 6, .wall 7200, 0⟩, ⟨1957, 1960, 9, .last 6, .wall 7200, 0⟩]

/-- The rules of Louisville. -/
def louisville : List Rule := [
  ⟨1921, 1921, 5, .on 1, .wall 7200, 3600⟩, ⟨1921, 1921, 9, .on 1, .wall 7200, 0⟩,
  ⟨1941, 1941, 4, .last 6, .wall 7200, 3600⟩, ⟨1941, 1941, 9, .last 6, .wall 7200, 0⟩,
  ⟨1946, 1946, 4, .last 6, .wall 60, 3600⟩, ⟨1946, 1946, 6, .on 2, .wall 7200, 0⟩,
  ⟨1950, 1961, 4, .last 6, .wall 7200, 3600⟩, ⟨1950, 1955, 9, .last 6, .wall 7200, 0⟩,
  ⟨1956, 1961, 10, .last 6, .wall 7200, 0⟩]

/-- The rules of Detroit. -/
def detroit : List Rule := [
  ⟨1948, 1948, 4, .last 6, .wall 7200, 3600⟩, ⟨1948, 1948, 9, .last 6, .wall 7200, 0⟩]

/-- The rules of Menominee. -/
def menominee : List Rule := [
  ⟨1946, 1946, 4, .last 6, .wall 7200, 3600⟩, ⟨1946, 1946, 9, .last 6, .wall 7200, 0⟩,
  ⟨1966, 1966, 4, .last 6, .wall 7200, 3600⟩, ⟨1966, 1966, 10, .last 6, .wall 7200, 0⟩]

/-- The common rules of Canada. -/
def canada : List Rule := [
  ⟨1918, 1918, 4, .on 14, .wall 7200, 3600⟩, ⟨1918, 1918, 10, .on 27, .wall 7200, 0⟩,
  ⟨1942, 1942, 2, .on 9, .wall 7200, 3600⟩, ⟨1945, 1945, 8, .on 14, .universal 82800, 3600⟩,
  ⟨1945, 1945, 9, .on 30, .wall 7200, 0⟩, ⟨1974, 1986, 4, .last 6, .wall 7200, 3600⟩,
  ⟨1974, 2006, 10, .last 6, .wall 7200, 0⟩, ⟨1987, 2006, 4, .since 6 1, .wall 7200, 3600⟩,
  ⟨2007, 2099, 3, .since 6 8, .wall 7200, 3600⟩, ⟨2007, 2099, 11, .since 6 1, .wall 7200, 0⟩]

/-- The rules of Newfoundland. -/
def stJohns : List Rule := [
  ⟨1917, 1917, 4, .on 8, .wall 7200, 3600⟩, ⟨1917, 1917, 9, .on 17, .wall 7200, 0⟩,
  ⟨1919, 1919, 5, .on 5, .wall 82800, 3600⟩, ⟨1919, 1919, 8, .on 12, .wall 82800, 0⟩,
  ⟨1920, 1935, 5, .since 6 1, .wall 82800, 3600⟩, ⟨1920, 1935, 10, .last 6, .wall 82800, 0⟩,
  ⟨1936, 1941, 5, .since 0 9, .wall 0, 3600⟩, ⟨1936, 1941, 10, .since 0 2, .wall 0, 0⟩,
  ⟨1946, 1950, 5, .since 6 8, .wall 7200, 3600⟩, ⟨1946, 1950, 10, .since 6 2, .wall 7200, 0⟩,
  ⟨1951, 1986, 4, .last 6, .wall 7200, 3600⟩, ⟨1951, 1959, 9, .last 6, .wall 7200, 0⟩,
  ⟨1960, 1986, 10, .last 6, .wall 7200, 0⟩, ⟨1987, 1987, 4, .since 6 1, .wall 60, 3600⟩,
  ⟨1987, 2006, 10, .last 6, .wall 60, 0⟩, ⟨1988, 1988, 4, .since 6 1, .wall 60, 7200⟩,
  ⟨1989, 2006, 4, .since 6 1, .wall 60, 3600⟩, ⟨2007, 2011, 3, .since 6 8, .wall 60, 3600⟩,
  ⟨2007, 2010, 11, .since 6 1, .wall 60, 0⟩]

/-- The rules of Halifax. -/
def halifax : List Rule := [
  ⟨1916, 1916, 4, .on 1, .wall 0, 3600⟩, ⟨1916, 1916, 10, .on 1, .wall 0, 0⟩,
  ⟨1920, 1920, 5, .on 9, .wall 0, 3600⟩, ⟨1920, 1920, 8, .on 29, .wall 0, 0⟩,
  ⟨1921, 1921, 5, .on 6, .wall 0, 3600⟩, ⟨1921, 1922, 9, .on 5, .wall 0, 0⟩,
  ⟨1922, 1922, 4, .on 30, .wall 0, 3600⟩, ⟨1923, 1925, 5, .since 6 1, .wall 0, 3600⟩,
  ⟨1923, 1923, 9, .on 4, .wall 0, 0⟩, ⟨1924, 1924, 9, .on 15, .wall 0, 0⟩,
  ⟨1925, 1925, 9, .on 28, .wall 0, 0⟩, ⟨1926, 1926, 5, .on 16, .wall 0, 3600⟩,
  ⟨1926, 1926, 9, .on 13, .wall 0, 0⟩, ⟨1927, 1927, 5, .on 1, .wall 0, 3600⟩,
  ⟨1927, 1927, 9, .on 26, .wall 0, 0⟩, ⟨1928, 1931, 5, .since 6 8, .wall 0, 3600⟩,
  ⟨1928, 1928, 9, .on 9, .wall 0, 0⟩, ⟨1929, 1929, 9, .on 3, .wall 0, 0⟩,
  ⟨1930, 1930, 9, .on 15, .wall 0, 0⟩, ⟨1931, 1932, 9, .since 0 24, .wall 0, 0⟩,
  ⟨1932, 1932, 5, .on 1, .wall 0, 3600⟩, ⟨1933, 1933, 4, .on 30, .wall 0, 3600⟩,
  ⟨1933, 1933, 10, .on 2, .wall 0, 0⟩, ⟨1934, 1934, 5, .on 20, .wall 0, 3600⟩,
  ⟨1934, 1934, 9, .on 16, .wall 0, 0⟩, ⟨1935, 1935, 6, .on 2, .wall 0, 3600⟩,
  ⟨1935, 1935, 9, .on 30, .wall 0, 0⟩, ⟨1936, 1936, 6, .on 1, .wall 0, 3600⟩,
  ⟨1936, 1936, 9, .on 14, .wall 0, 0⟩, ⟨1937, 1938, 5, .since 6 1, .wall 0, 3600⟩,
  ⟨1937, 1941, 9, .since 0 24, .wall 0, 0⟩, ⟨1939, 1939, 5, .on 28, .wall 0, 3600⟩,
  ⟨1940, 1941, 5, .since 6 1, .wall 0, 3600⟩, ⟨1946, 1949, 4, .last 6, .wall 7200, 3600⟩,
  ⟨1946, 1949, 9, .last 6, .wall 7200, 0⟩, ⟨1951, 1954, 4, .last 6, .wall 7200, 3600⟩,
  ⟨1951, 1954, 9, .last 6, .wall 7200, 0⟩, ⟨1956, 1959, 4, .last 6, .wall 7200, 3600⟩,
  ⟨1956, 1959, 9, .last 6, .wall 7200, 0⟩, ⟨1962, 1973, 4, .last 6, .wall 7200, 3600⟩,
  ⟨1962, 1973, 10, .last 6, .wall 7200, 0⟩]

/-- The rules of Moncton. -/
def moncton : List Rule := [
  ⟨1933, 1935, 6, .since 6 8, .wall 3600, 3600⟩, ⟨1933, 1935, 9, .since 6 8, .wall 3600, 0⟩,
  ⟨1936, 1938, 6, .since 6 1, .wall 3600, 3600⟩, ⟨1936, 1938, 9, .since 6 1, .wall 3600, 0⟩,
  ⟨1939, 1939, 5, .on 27, .wall 3600, 3600⟩, ⟨1939, 1941, 9, .since 5 21, .wall 3600, 0⟩,
  ⟨1940, 1940, 5, .on 19, .wall 3600, 3600⟩, ⟨1941, 1941, 5, .on 4, .wall 3600, 3600⟩,
  ⟨1946, 1972, 4, .last 6, .wall 7200, 3600⟩, ⟨1946, 1956, 9, .last 6, .wall 7200, 0⟩,
  ⟨1957, 1972, 10, .last 6, .wall 7200, 0⟩, ⟨1993, 2006, 4, .since 6 1, .wall 60, 3600⟩,
  ⟨1993, 2006, 10, .last 6, .wall 60, 0⟩]

/-- The rules of Toronto. -/
def toronto : List Rule := [
  ⟨1919, 1919, 3, .on 30, .wall 84600, 3600⟩, ⟨1919, 1919, 10, .on 26, .wall 0, 0⟩,
  ⟨1920, 1920, 5, .on 2, .wall 7200, 3600⟩, ⟨1920, 1920, 9, .on 26, .wall 0, 0⟩,
  ⟨1921, 1921, 5, .on 15, .wall 7200, 3600⟩, ⟨1921, 1921, 9, .on 15, .wall 7200, 0⟩,
  ⟨1922, 1923, 5, .since 6 8, .wall 7200, 3600⟩, ⟨1922, 1926, 9, .since 6 15, .wall 7200, 0⟩,
  ⟨1924, 1927, 5, .since 6 1, .wall 7200, 3600⟩, ⟨1927, 1937, 9, .since 6 25, .wall 7200, 0⟩,
  ⟨1928, 1937, 4, .since 6 25, .wall 7200, 3600⟩, ⟨1938, 1940, 4, .last 6, .wall 7200, 3600⟩,
  ⟨1938, 1939, 9, .last 6, .wall 7200, 0⟩, ⟨1945, 1948, 9, .last 6, .wall 7200, 0⟩,
  ⟨1946, 1973, 4, .last 6, .wall 7200, 3600⟩, ⟨1949, 1950, 11, .last 6, .wall 7200, 0⟩,
  ⟨1951, 1956, 9, .last 6, .wall 7200, 0⟩, ⟨1957, 1973, 10, .last 6, .wall 7200, 0⟩]

/-- The rules of Winnipeg. -/
def winnipeg : List Rule := [
  ⟨1916, 1916, 4, .on 23, .wall 0, 3600⟩, ⟨1916, 1916, 9, .on 17, .wall 0, 0⟩,
  ⟨1918, 1918, 4, .on 14, .wall 7200, 3600⟩, ⟨1918, 1918, 10, .on 27, .wall 7200, 0⟩,
  ⟨1937, 1937, 5, .on 16, .wall 7200, 3600⟩, ⟨1937, 1937, 9, .on 26, .wall 7200, 0⟩,
  ⟨1942, 1942, 2, .on 9, .wall 7200, 3600⟩, ⟨1945, 1945, 8, .on 14, .universal 82800, 3600⟩,
  ⟨1945, 1945, 9, .last 6, .wall 7200, 0⟩, ⟨1946, 1946, 5, .on 12, .wall 7200, 3600⟩,
  ⟨1946, 1946, 10, .on 13, .wall 7200, 0⟩, ⟨1947, 1949, 4, .last 6, .wall 7200, 3600⟩,
  ⟨1947, 1949, 9, .last 6, .wall 7200, 0⟩, ⟨1950, 1950, 5, .on 1, .wall 7200, 3600⟩,
  ⟨1950, 1950, 9, .on 30, .wall 7200, 0⟩, ⟨1951, 1960, 4, .last 6, .wall 7200, 3600⟩,
  ⟨1951, 1958, 9, .last 6, .wall 7200, 0⟩, ⟨1959, 1959, 10, .last 6, .wall 7200, 0⟩,
  ⟨1960, 1960, 9, .last 6, .wall 7200, 0⟩, ⟨1963, 1963, 4, .last 6, .wall 7200, 3600⟩,
  ⟨1963, 1963, 9, .on 22, .wall 7200, 0⟩, ⟨1966, 1986, 4, .last 6, .standard 7200, 3600⟩,
  ⟨1966, 2005, 10, .last 6, .standard 7200, 0⟩, ⟨1987, 2005, 4, .since 6 1, .standard 7200, 3600⟩]

/-- The rules of Regina. -/
def regina : List Rule := [
  ⟨1918, 1918, 4, .on 14, .wall 7200, 3600⟩, ⟨1918, 1918, 10, .on 27, .wall 7200, 0⟩,
  ⟨1930, 1934, 5, .since 6 1, .wall 0, 3600⟩, ⟨1930, 1934, 10, .since 6 1, .wall 0, 0⟩,
  ⟨1937, 1941, 4, .since 6 8, .wall 0, 3600⟩, ⟨1937, 1937, 10, .since 6 8, .wall 0, 0⟩,
  ⟨1938, 1938, 10, .since 6 1, .wall 0, 0⟩, ⟨1939, 1941, 10, .since 6 8, .wall 0, 0⟩,
  ⟨1942, 1942, 2, .on 9, .wall 7200, 3600⟩, ⟨1945, 1945, 8, .on 14, .universal 82800, 3600⟩,
  ⟨1945, 1945, 9, .last 6, .wall 7200, 0⟩, ⟨1946, 1946, 4, .since 6 8, .wall 7200, 3600⟩,
  ⟨1946, 1946, 10, .since 6 8, .wall 7200, 0⟩, ⟨1947, 1957, 4, .last 6, .wall 7200, 3600⟩,
  ⟨1947, 1957, 9, .last 6, .wall 7200, 0⟩, ⟨1959, 1959, 4, .last 6, .wall 7200, 3600⟩,
  ⟨1959, 1959, 10, .last 6, .wall 7200, 0⟩]

/-- The rules of Swift Current. -/
def swiftCurrent : List Rule := [
  ⟨1957, 1957, 4, .last 6, .wall 7200, 3600⟩, ⟨1957, 1957, 10, .last 6, .wall 7200, 0⟩,
  ⟨1959, 1961, 4, .last 6, .wall 7200, 3600⟩, ⟨1959, 1959, 10, .last 6, .wall 7200, 0⟩,
  ⟨1960, 1961, 9, .last 6, .wall 7200, 0⟩]

/-- The rules of Edmonton. -/
def edmonton : List Rule := [
  ⟨1918, 1919, 4, .since 6 8, .wall 7200, 3600⟩, ⟨1918, 1918, 10, .on 27, .wall 7200, 0⟩,
  ⟨1919, 1919, 5, .on 27, .wall 7200, 0⟩, ⟨1920, 1923, 4, .last 6, .wall 7200, 3600⟩,
  ⟨1920, 1920, 10, .last 6, .wall 7200, 0⟩, ⟨1921, 1923, 9, .last 6, .wall 7200, 0⟩,
  ⟨1942, 1942, 2, .on 9, .wall 7200, 3600⟩, ⟨1945, 1945, 8, .on 14, .universal 82800, 3600⟩,
  ⟨1945, 1945, 9, .last 6, .wall 7200, 0⟩, ⟨1947, 1947, 4, .last 6, .wall 7200, 3600⟩,
  ⟨1947, 1947, 9, .last 6, .wall 7200, 0⟩, ⟨1972, 1986, 4, .last 6, .wall 7200, 3600⟩,
  ⟨1972, 2006, 10, .last 6, .wall 7200, 0⟩]

/-- The rules of Vancouver. -/
def vancouver : List Rule := [
  ⟨1918, 1918, 4, .on 14, .wall 7200, 3600⟩, ⟨1918, 1918, 10, .on 27, .wall 7200, 0⟩,
  ⟨1942, 1942, 2, .on 9, .wall 7200, 3600⟩, ⟨1945, 1945, 8, .on 14, .universal 82800, 3600⟩,
  ⟨1945, 1945, 9, .on 30, .wall 7200, 0⟩, ⟨1946, 1986, 4, .last 6, .wall 7200, 3600⟩,
  ⟨1946, 1946, 9, .on 29, .wall 7200, 0⟩, ⟨1947, 1961, 9, .last 6, .wall 7200, 0⟩,
  ⟨1962, 2006, 10, .last 6, .wall 7200, 0⟩]

/-- The rules of the north-west of Canada. -/
def northCanada : List Rule := [
  ⟨1918, 1918, 4, .on 14, .wall 7200, 3600⟩, ⟨1918, 1918, 10, .on 27, .wall 7200, 0⟩,
  ⟨1919, 1919, 5, .on 25, .wall 7200, 3600⟩, ⟨1919, 1919, 11, .on 1, .wall 0, 0⟩,
  ⟨1942, 1942, 2, .on 9, .wall 7200, 3600⟩, ⟨1945, 1945, 8, .on 14, .universal 82800, 3600⟩,
  ⟨1945, 1945, 9, .on 30, .wall 7200, 0⟩, ⟨1972, 1986, 4, .last 6, .wall 7200, 3600⟩,
  ⟨1972, 2006, 10, .last 6, .wall 7200, 0⟩, ⟨1987, 2006, 4, .since 6 1, .wall 7200, 3600⟩]

/-- The rules of Yukon. -/
def yukon : List Rule := [
  ⟨1965, 1965, 4, .last 6, .wall 0, 7200⟩, ⟨1965, 1965, 10, .last 6, .wall 7200, 0⟩]

/-- The rules of Mexico. -/
def mexico : List Rule := [
  ⟨1931, 1931, 4, .on 30, .wall 0, 3600⟩, ⟨1931, 1931, 10, .on 1, .wall 0, 0⟩,
  ⟨1939, 1939, 2, .on 5, .wall 0, 3600⟩, ⟨1939, 1939, 6, .on 25, .wall 0, 0⟩,
  ⟨1940, 1940, 12, .on 9, .wall 0, 3600⟩, ⟨1941, 1941, 4, .on 1, .wall 0, 0⟩,
  ⟨1943, 1943, 12, .on 16, .wall 0, 3600⟩, ⟨1944, 1944, 5, .on 1, .wall 0, 0⟩,
  ⟨1950, 1950, 2, .on 12, .wall 0, 3600⟩, ⟨1950, 1950, 7, .on 30, .wall 0, 0⟩,
  ⟨1996, 2000, 4, .since 6 1, .wall 7200, 3600⟩, ⟨1996, 2000, 10, .last 6, .wall 7200, 0⟩,
  ⟨2001, 2001, 5, .since 6 1, .wall 7200, 3600⟩, ⟨2001, 2001, 9, .last 6, .wall 7200, 0⟩,
  ⟨2002, 2022, 4, .since 6 1, .wall 7200, 3600⟩, ⟨2002, 2022, 10, .last 6, .wall 7200, 0⟩]

/-- The rules of Barbados. -/
def barbados : List Rule := [
  ⟨1942, 1942, 4, .on 19, .universal 18000, 3600⟩, ⟨1942, 1942, 8, .on 31, .universal 21600, 0⟩,
  ⟨1943, 1943, 5, .on 2, .universal 18000, 3600⟩, ⟨1943, 1943, 9, .on 5, .universal 21600, 0⟩,
  ⟨1944, 1944, 4, .on 10, .universal 18000, 1800⟩, ⟨1944, 1944, 9, .on 10, .universal 21600, 0⟩,
  ⟨1977, 1977, 6, .on 12, .wall 7200, 3600⟩, ⟨1977, 1978, 10, .since 6 1, .wall 7200, 0⟩,
  ⟨1978, 1980, 4, .since 6 15, .wall 7200, 3600⟩, ⟨1979, 1979, 9, .on 30, .wall 7200, 0⟩,
  ⟨1980, 1980, 9, .on 25, .wall 7200, 0⟩]

/-- The rules of Belize. -/
def belize : List Rule := [
  ⟨1918, 1941, 10, .since 5 1, .wall 86400, 1800⟩, ⟨1919, 1942, 2, .since 5 8, .wall 86400, 0⟩,
  ⟨1942, 1942, 6, .on 27, .wall 86400, 3600⟩, ⟨1945, 1945, 8, .on 14, .universal 82800, 3600⟩,
  ⟨1945, 1945, 12, .on 15, .wall 86400, 0⟩, ⟨1947, 1967, 10, .since 5 1, .wall 86400, 1800⟩,
  ⟨1948, 1968, 2, .since 5 8, .wall 86400, 0⟩, ⟨1973, 1973, 12, .on 5, .wall 0, 3600⟩,
  ⟨1974, 1974, 2, .on 9, .wall 0, 0⟩, ⟨1982, 1982, 12, .on 18, .wall 0, 3600⟩,
  ⟨1983, 1983, 2, .on 12, .wall 0, 0⟩]

/-- The rules of Bermuda. -/
def bermuda : List Rule := [
  ⟨1917, 1917, 4, .on 5, .wall 86400, 3600⟩, ⟨1917, 1917, 9, .on 30, .wall 86400, 0⟩,
  ⟨1918, 1918, 4, .on 13, .wall 86400, 3600⟩, ⟨1918, 1918, 9, .on 15, .wall 86400, 0⟩,
  ⟨1942, 1942, 1, .on 11, .wall 7200, 3600⟩, ⟨1942, 1942, 10, .on 18, .wall 7200, 0⟩,
  ⟨1943, 1943, 3, .on 21, .wall 7200, 3600⟩, ⟨1943, 1943, 10, .on 31, .wall 7200, 0⟩,
  ⟨1944, 1945, 3, .since 6 8, .wall 7200, 3600⟩, ⟨1944, 1945, 11, .since 6 1, .wall 7200, 0⟩,
  ⟨1947, 1947, 5, .since 6 15, .wall 7200, 3600⟩, ⟨1947, 1947, 9, .since 6 8, .wall 7200, 0⟩,
  ⟨1948, 1952, 5, .since 6 22, .wall 7200, 3600⟩, ⟨1948, 1952, 9, .since 6 1, .wall 7200, 0⟩,
  ⟨1956, 1956, 5, .since 6 22, .wall 7200, 3600⟩, ⟨1956, 1956, 10, .last 6, .wall 7200, 0⟩]

/-- The rules of Costa Rica. -/
def costaRica : List Rule := [
  ⟨1979, 1980, 2, .last 6, .wall 0, 3600⟩, ⟨1979, 1980, 6, .since 6 1, .wall 0, 0⟩,
  ⟨1991, 1992, 1, .since 5 15, .wall 0, 3600⟩, ⟨1991, 1991, 7, .on 1, .wall 0, 0⟩,
  ⟨1992, 1992, 3, .on 15, .wall 0, 0⟩]

/-- The rules of Cuba. -/
def cuba : List Rule := [
  ⟨1928, 1928, 6, .on 10, .wall 0, 3600⟩, ⟨1928, 1928, 10, .on 10, .wall 0, 0⟩,
  ⟨1940, 1942, 6, .since 6 1, .wall 0, 3600⟩, ⟨1940, 1942, 9, .since 6 1, .wall 0, 0⟩,
  ⟨1945, 1946, 6, .since 6 1, .wall 0, 3600⟩, ⟨1945, 1946, 9, .since 6 1, .wall 0, 0⟩,
  ⟨1965, 1965, 6, .on 1, .wall 0, 3600⟩, ⟨1965, 1965, 9, .on 30, .wall 0, 0⟩,
  ⟨1966, 1966, 5, .on 29, .wall 0, 3600⟩, ⟨1966, 1966, 10, .on 2, .wall 0, 0⟩,
  ⟨1967, 1967, 4, .on 8, .wall 0, 3600⟩, ⟨1967, 1968, 9, .since 6 8, .wall 0, 0⟩,
  ⟨1968, 1968, 4, .on 14, .wall 0, 3600⟩, ⟨1969, 1977, 4, .last 6, .wall 0, 3600⟩,
  ⟨1969, 1971, 10, .last 6, .wall 0, 0⟩, ⟨1972, 1974, 10, .on 8, .wall 0, 0⟩,
  ⟨1975, 1977, 10, .last 6, .wall 0, 0⟩, ⟨1978, 1978, 5, .on 7, .wall 0, 3600⟩,
  ⟨1978, 1990, 10, .since 6 8, .wall 0, 0⟩, ⟨1979, 1980, 3, .since 6 15, .wall 0, 3600⟩,
  ⟨1981, 1985, 5, .since 6 5, .wall 0, 3600⟩, ⟨1986, 1989, 3, .since 6 14, .wall 0, 3600⟩,
  ⟨1990, 1997, 4, .since 6 1, .wall 0, 3600⟩, ⟨1991, 1995, 10, .since 6 8, .standard 0, 0⟩,
  ⟨1996, 1996, 10, .on 6, .standard 0, 0⟩, ⟨1997, 1997, 10, .on 12, .standard 0, 0⟩,
  ⟨1998, 1999, 3, .last 6, .standard 0, 3600⟩, ⟨1998, 2003, 10, .last 6, .standard 0, 0⟩,
  ⟨2000, 2003, 4, .since 6 1, .standard 0, 3600⟩, ⟨2004, 2004, 3, .last 6, .standard 0, 3600⟩,
  ⟨2006, 2010, 10, .last 6, .standard 0, 0⟩, ⟨2007, 2007, 3, .since 6 8, .standard 0, 3600⟩,
  ⟨2008, 2008, 3, .since 6 15, .standard 0, 3600⟩, ⟨2009, 2010, 3, .since 6 8, .standard 0, 3600⟩,
  ⟨2011, 2011, 3, .since 6 15, .standard 0, 3600⟩, ⟨2011, 2011, 11, .on 13, .standard 0, 0⟩,
  ⟨2012, 2012, 4, .on 1, .standard 0, 3600⟩, ⟨2012, 2099, 11, .since 6 1, .standard 0, 0⟩,
  ⟨2013, 2099, 3, .since 6 8, .standard 0, 3600⟩]

/-- The rules of the Dominican Republic. -/
def dominicanRepublic : List Rule := [
  ⟨1966, 1966, 10, .on 30, .wall 0, 3600⟩, ⟨1967, 1967, 2, .on 28, .wall 0, 0⟩,
  ⟨1969, 1973, 10, .last 6, .wall 0, 1800⟩, ⟨1970, 1970, 2, .on 21, .wall 0, 0⟩,
  ⟨1971, 1971, 1, .on 20, .wall 0, 0⟩, ⟨1972, 1974, 1, .on 21, .wall 0, 0⟩]

/-- The rules of El Salvador. -/
def elSalvador : List Rule := [
  ⟨1987, 1988, 5, .since 6 1, .wall 0, 3600⟩, ⟨1987, 1988, 9, .last 6, .wall 0, 0⟩]

/-- The rules of Guatemala. -/
def guatemala : List Rule := [
  ⟨1973, 1973, 11, .on 25, .wall 0, 3600⟩, ⟨1974, 1974, 2, .on 24, .wall 0, 0⟩,
  ⟨1983, 1983, 5, .on 21, .wall 0, 3600⟩, ⟨1983, 1983, 9, .on 22, .wall 0, 0⟩,
  ⟨1991, 1991, 3, .on 23, .wall 0, 3600⟩, ⟨1991, 1991, 9, .on 7, .wall 0, 0⟩,
  ⟨2006, 2006, 4, .on 30, .wall 0, 3600⟩, ⟨2006, 2006, 10, .on 1, .wall 0, 0⟩]

/-- The rules of Haiti. -/
def haiti : List Rule := [
  ⟨1983, 1983, 5, .on 8, .wall 0, 3600⟩, ⟨1984, 1987, 4, .last 6, .wall 0, 3600⟩,
  ⟨1983, 1987, 10, .last 6, .wall 0, 0⟩, ⟨1988, 1997, 4, .since 6 1, .standard 3600, 3600⟩,
  ⟨1988, 1997, 10, .last 6, .standard 3600, 0⟩, ⟨2005, 2006, 4, .since 6 1, .wall 0, 3600⟩,
  ⟨2005, 2006, 10, .last 6, .wall 0, 0⟩, ⟨2012, 2015, 3, .since 6 8, .wall 7200, 3600⟩,
  ⟨2012, 2015, 11, .since 6 1, .wall 7200, 0⟩, ⟨2017, 2099, 3, .since 6 8, .wall 7200, 3600⟩,
  ⟨2017, 2099, 11, .since 6 1, .wall 7200, 0⟩]

/-- The rules of Honduras. -/
def honduras : List Rule := [
  ⟨1987, 1988, 5, .since 6 1, .wall 0, 3600⟩, ⟨1987, 1988, 9, .last 6, .wall 0, 0⟩,
  ⟨2006, 2006, 5, .since 6 1, .wall 0, 3600⟩, ⟨2006, 2006, 8, .since 0 1, .wall 0, 0⟩]

/-- The rules of Nicaragua. -/
def nicaragua : List Rule := [
  ⟨1979, 1980, 3, .since 6 16, .wall 0, 3600⟩, ⟨1979, 1980, 6, .since 0 23, .wall 0, 0⟩,
  ⟨2005, 2005, 4, .on 10, .wall 0, 3600⟩, ⟨2005, 2005, 10, .since 6 1, .wall 0, 0⟩,
  ⟨2006, 2006, 4, .on 30, .wall 7200, 3600⟩, ⟨2006, 2006, 10, .since 6 1, .wall 3600, 0⟩]

end ForeignLayer.Calendar.Rules
