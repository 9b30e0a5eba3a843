import ForeignLayer.Calendar.Zone.History

/-!
# Summer time in Europe

The rules of summer time of countries and places, from the public record of time zones.
-/

namespace ForeignLayer.Calendar.Rules

/-- The rules of the Troll station. -/
def troll : List Rule := [
  ⟨2005, 2099, 3, .last 6, .universal 3600, 7200⟩, ⟨2004, 2099, 10, .last 6, .universal 3600, 0⟩]

/-- The rules of Britain. -/
def britain : List Rule := [
  ⟨1916, 1916, 5, .on 21, .standard 7200, 3600⟩, ⟨1916, 1916, 10, .on 1, .standard 7200, 0⟩,
  ⟨1917, 1917, 4, .on 8, .standard 7200, 3600⟩, ⟨1917, 1917, 9, .on 17, .standard 7200, 0⟩,
  ⟨1918, 1918, 3, .on 24, .standard 7200, 3600⟩, ⟨1918, 1918, 9, .on 30, .standard 7200, 0⟩,
  ⟨1919, 1919, 3, .on 30, .standard 7200, 3600⟩, ⟨1919, 1919, 9, .on 29, .standard 7200, 0⟩,
  ⟨1920, 1920, 3, .on 28, .standard 7200, 3600⟩, ⟨1920, 1920, 10, .on 25, .standard 7200, 0⟩,
  ⟨1921, 1921, 4, .on 3, .standard 7200, 3600⟩, ⟨1921, 1921, 10, .on 3, .standard 7200, 0⟩,
  ⟨1922, 1922, 3, .on 26, .standard 7200, 3600⟩, ⟨1922, 1922, 10, .on 8, .standard 7200, 0⟩,
  ⟨1923, 1923, 4, .since 6 16, .standard 7200, 3600⟩,
  ⟨1923, 1924, 9, .since 6 16, .standard 7200, 0⟩,
  ⟨1924, 1924, 4, .since 6 9, .standard 7200, 3600⟩,
  ⟨1925, 1926, 4, .since 6 16, .standard 7200, 3600⟩,
  ⟨1925, 1938, 10, .since 6 2, .standard 7200, 0⟩,
  ⟨1927, 1927, 4, .since 6 9, .standard 7200, 3600⟩,
  ⟨1928, 1929, 4, .since 6 16, .standard 7200, 3600⟩,
  ⟨1930, 1930, 4, .since 6 9, .standard 7200, 3600⟩,
  ⟨1931, 1932, 4, .since 6 16, .standard 7200, 3600⟩,
  ⟨1933, 1933, 4, .since 6 9, .standard 7200, 3600⟩,
  ⟨1934, 1934, 4, .since 6 16, .standard 7200, 3600⟩,
  ⟨1935, 1935, 4, .since 6 9, .standard 7200, 3600⟩,
  ⟨1936, 1937, 4, .since 6 16, .standard 7200, 3600⟩,
  ⟨1938, 1938, 4, .since 6 9, .standard 7200, 3600⟩,
  ⟨1939, 1939, 4, .since 6 16, .standard 7200, 3600⟩,
  ⟨1939, 1939, 11, .since 6 16, .standard 7200, 0⟩,
  ⟨1940, 1940, 2, .since 6 23, .standard 7200, 3600⟩,
  ⟨1941, 1941, 5, .since 6 2, .standard 3600, 7200⟩,
  ⟨1941, 1943, 8, .since 6 9, .standard 3600, 3600⟩,
  ⟨1942, 1944, 4, .since 6 2, .standard 3600, 7200⟩,
  ⟨1944, 1944, 9, .since 6 16, .standard 3600, 3600⟩,
  ⟨1945, 1945, 4, .since 0 2, .standard 3600, 7200⟩,
  ⟨1945, 1945, 7, .since 6 9, .standard 3600, 3600⟩,
  ⟨1945, 1946, 10, .since 6 2, .standard 7200, 0⟩,
  ⟨1946, 1946, 4, .since 6 9, .standard 7200, 3600⟩, ⟨1947, 1947, 3, .on 16, .standard 7200, 3600⟩,
  ⟨1947, 1947, 4, .on 13, .standard 3600, 7200⟩, ⟨1947, 1947, 8, .on 10, .standard 3600, 3600⟩,
  ⟨1947, 1947, 11, .on 2, .standard 7200, 0⟩, ⟨1948, 1948, 3, .on 14, .standard 7200, 3600⟩,
  ⟨1948, 1948, 10, .on 31, .standard 7200, 0⟩, ⟨1949, 1949, 4, .on 3, .standard 7200, 3600⟩,
  ⟨1949, 1949, 10, .on 30, .standard 7200, 0⟩, ⟨1950, 1952, 4, .since 6 14, .standard 7200, 3600⟩,
  ⟨1950, 1952, 10, .since 6 21, .standard 7200, 0⟩,
  ⟨1953, 1953, 4, .since 6 16, .standard 7200, 3600⟩,
  ⟨1953, 1960, 10, .since 6 2, .standard 7200, 0⟩,
  ⟨1954, 1954, 4, .since 6 9, .standard 7200, 3600⟩,
  ⟨1955, 1956, 4, .since 6 16, .standard 7200, 3600⟩,
  ⟨1957, 1957, 4, .since 6 9, .standard 7200, 3600⟩,
  ⟨1958, 1959, 4, .since 6 16, .standard 7200, 3600⟩,
  ⟨1960, 1960, 4, .since 6 9, .standard 7200, 3600⟩, ⟨1961, 1963, 3, .last 6, .standard 7200, 3600⟩,
  ⟨1961, 1968, 10, .since 6 23, .standard 7200, 0⟩,
  ⟨1964, 1967, 3, .since 6 19, .standard 7200, 3600⟩, ⟨1968, 1968, 2, .on 18, .standard 7200, 3600⟩,
  ⟨1972, 1980, 3, .since 6 16, .standard 7200, 3600⟩,
  ⟨1972, 1980, 10, .since 6 23, .standard 7200, 0⟩, ⟨1981, 1995, 3, .last 6, .universal 3600, 3600⟩,
  ⟨1981, 1989, 10, .since 6 23, .universal 3600, 0⟩,
  ⟨1990, 1995, 10, .since 6 22, .universal 3600, 0⟩]

/-- The common rules of the European Union and its forerunners. -/
def europe : List Rule := [
  ⟨1977, 1980, 4, .since 6 1, .universal 3600, 3600⟩, ⟨1977, 1977, 9, .last 6, .universal 3600, 0⟩,
  ⟨1978, 1978, 10, .on 1, .universal 3600, 0⟩, ⟨1979, 1995, 9, .last 6, .universal 3600, 0⟩,
  ⟨1981, 2099, 3, .last 6, .universal 3600, 3600⟩, ⟨1996, 2099, 10, .last 6, .universal 3600, 0⟩]

/-- The rules of the west of Europe. -/
def westEurope : List Rule := [
  ⟨1977, 1980, 4, .since 6 1, .standard 3600, 3600⟩, ⟨1977, 1977, 9, .last 6, .standard 3600, 0⟩,
  ⟨1978, 1978, 10, .on 1, .standard 3600, 0⟩, ⟨1979, 1995, 9, .last 6, .standard 3600, 0⟩,
  ⟨1981, 2099, 3, .last 6, .standard 3600, 3600⟩, ⟨1996, 2099, 10, .last 6, .standard 3600, 0⟩]

/-- The common rules of Central Europe. -/
def centralEurope : List Rule := [
  ⟨1916, 1916, 4, .on 30, .wall 82800, 3600⟩, ⟨1916, 1916, 10, .on 1, .wall 3600, 0⟩,
  ⟨1917, 1918, 4, .since 0 15, .standard 7200, 3600⟩,
  ⟨1917, 1918, 9, .since 0 15, .standard 7200, 0⟩, ⟨1940, 1940, 4, .on 1, .standard 7200, 3600⟩,
  ⟨1942, 1942, 11, .on 2, .standard 7200, 0⟩, ⟨1943, 1943, 3, .on 29, .standard 7200, 3600⟩,
  ⟨1943, 1943, 10, .on 4, .standard 7200, 0⟩, ⟨1944, 1945, 4, .since 0 1, .standard 7200, 3600⟩,
  ⟨1944, 1944, 10, .on 2, .standard 7200, 0⟩, ⟨1945, 1945, 9, .on 16, .standard 7200, 0⟩,
  ⟨1977, 1980, 4, .since 6 1, .standard 7200, 3600⟩, ⟨1977, 1977, 9, .last 6, .standard 7200, 0⟩,
  ⟨1978, 1978, 10, .on 1, .standard 7200, 0⟩, ⟨1979, 1995, 9, .last 6, .standard 7200, 0⟩,
  ⟨1981, 2099, 3, .last 6, .standard 7200, 3600⟩, ⟨1996, 2099, 10, .last 6, .standard 7200, 0⟩]

/-- The rules of the east of Europe. -/
def eastEurope : List Rule := [
  ⟨1977, 1980, 4, .since 6 1, .wall 0, 3600⟩, ⟨1977, 1977, 9, .last 6, .wall 0, 0⟩,
  ⟨1978, 1978, 10, .on 1, .wall 0, 0⟩, ⟨1979, 1995, 9, .last 6, .wall 0, 0⟩,
  ⟨1981, 2099, 3, .last 6, .wall 0, 3600⟩, ⟨1996, 2099, 10, .last 6, .wall 0, 0⟩]

/-- The rules of Russia. -/
def russia : List Rule := [
  ⟨1917, 1917, 7, .on 1, .wall 82800, 3600⟩, ⟨1917, 1917, 12, .on 28, .wall 0, 0⟩,
  ⟨1918, 1918, 5, .on 31, .wall 79200, 7200⟩, ⟨1918, 1918, 9, .on 16, .wall 3600, 3600⟩,
  ⟨1919, 1919, 5, .on 31, .wall 82800, 7200⟩, ⟨1919, 1919, 7, .on 1, .universal 0, 3600⟩,
  ⟨1919, 1919, 8, .on 16, .wall 0, 0⟩, ⟨1921, 1921, 2, .on 14, .wall 82800, 3600⟩,
  ⟨1921, 1921, 3, .on 20, .wall 82800, 7200⟩, ⟨1921, 1921, 9, .on 1, .wall 0, 3600⟩,
  ⟨1921, 1921, 10, .on 1, .wall 0, 0⟩, ⟨1981, 1984, 4, .on 1, .wall 0, 3600⟩,
  ⟨1981, 1983, 10, .on 1, .wall 0, 0⟩, ⟨1984, 1995, 9, .last 6, .standard 7200, 0⟩,
  ⟨1985, 2010, 3, .last 6, .standard 7200, 3600⟩, ⟨1996, 2010, 10, .last 6, .standard 7200, 0⟩]

/-- The rules of Albania. -/
def albania : List Rule := [
  ⟨1940, 1940, 6, .on 16, .wall 0, 3600⟩, ⟨1942, 1942, 11, .on 2, .wall 10800, 0⟩,
  ⟨1943, 1943, 3, .on 29, .wall 7200, 3600⟩, ⟨1943, 1943, 4, .on 10, .wall 10800, 0⟩,
  ⟨1974, 1974, 5, .on 4, .wall 0, 3600⟩, ⟨1974, 1974, 10, .on 2, .wall 0, 0⟩,
  ⟨1975, 1975, 5, .on 1, .wall 0, 3600⟩, ⟨1975, 1975, 10, .on 2, .wall 0, 0⟩,
  ⟨1976, 1976, 5, .on 2, .wall 0, 3600⟩, ⟨1976, 1976, 10, .on 3, .wall 0, 0⟩,
  ⟨1977, 1977, 5, .on 8, .wall 0, 3600⟩, ⟨1977, 1977, 10, .on 2, .wall 0, 0⟩,
  ⟨1978, 1978, 5, .on 6, .wall 0, 3600⟩, ⟨1978, 1978, 10, .on 1, .wall 0, 0⟩,
  ⟨1979, 1979, 5, .on 5, .wall 0, 3600⟩, ⟨1979, 1979, 9, .on 30, .wall 0, 0⟩,
  ⟨1980, 1980, 5, .on 3, .wall 0, 3600⟩, ⟨1980, 1980, 10, .on 4, .wall 0, 0⟩,
  ⟨1981, 1981, 4, .on 26, .wall 0, 3600⟩, ⟨1981, 1981, 9, .on 27, .wall 0, 0⟩,
  ⟨1982, 1982, 5, .on 2, .wall 0, 3600⟩, ⟨1982, 1982, 10, .on 3, .wall 0, 0⟩,
  ⟨1983, 1983, 4, .on 18, .wall 0, 3600⟩, ⟨1983, 1983, 10, .on 1, .wall 0, 0⟩,
  ⟨1984, 1984, 4, .on 1, .wall 0, 3600⟩]

/-- The rules of Austria. -/
def austria : List Rule := [
  ⟨1920, 1920, 4, .on 5, .standard 7200, 3600⟩, ⟨1920, 1920, 9, .on 13, .standard 7200, 0⟩,
  ⟨1946, 1946, 4, .on 14, .standard 7200, 3600⟩, ⟨1946, 1946, 10, .on 7, .standard 7200, 0⟩,
  ⟨1947, 1948, 10, .since 6 1, .standard 7200, 0⟩, ⟨1947, 1947, 4, .on 6, .standard 7200, 3600⟩,
  ⟨1948, 1948, 4, .on 18, .standard 7200, 3600⟩, ⟨1980, 1980, 4, .on 6, .wall 0, 3600⟩,
  ⟨1980, 1980, 9, .on 28, .wall 0, 0⟩]

/-- The rules of Belgium. -/
def belgium : List Rule := [
  ⟨1918, 1918, 3, .on 9, .standard 0, 3600⟩, ⟨1918, 1919, 10, .since 5 1, .standard 82800, 0⟩,
  ⟨1919, 1919, 3, .on 1, .standard 82800, 3600⟩, ⟨1920, 1920, 2, .on 14, .standard 82800, 3600⟩,
  ⟨1920, 1920, 10, .on 23, .standard 82800, 0⟩, ⟨1921, 1921, 3, .on 14, .standard 82800, 3600⟩,
  ⟨1921, 1921, 10, .on 25, .standard 82800, 0⟩, ⟨1922, 1922, 3, .on 25, .standard 82800, 3600⟩,
  ⟨1922, 1927, 10, .since 5 1, .standard 82800, 0⟩, ⟨1923, 1923, 4, .on 21, .standard 82800, 3600⟩,
  ⟨1924, 1924, 3, .on 29, .standard 82800, 3600⟩, ⟨1925, 1925, 4, .on 4, .standard 82800, 3600⟩,
  ⟨1926, 1926, 4, .on 17, .standard 82800, 3600⟩, ⟨1927, 1927, 4, .on 9, .standard 82800, 3600⟩,
  ⟨1928, 1928, 4, .on 14, .standard 82800, 3600⟩, ⟨1928, 1938, 10, .since 6 2, .standard 7200, 0⟩,
  ⟨1929, 1929, 4, .on 21, .standard 7200, 3600⟩, ⟨1930, 1930, 4, .on 13, .standard 7200, 3600⟩,
  ⟨1931, 1931, 4, .on 19, .standard 7200, 3600⟩, ⟨1932, 1932, 4, .on 3, .standard 7200, 3600⟩,
  ⟨1933, 1933, 3, .on 26, .standard 7200, 3600⟩, ⟨1934, 1934, 4, .on 8, .standard 7200, 3600⟩,
  ⟨1935, 1935, 3, .on 31, .standard 7200, 3600⟩, ⟨1936, 1936, 4, .on 19, .standard 7200, 3600⟩,
  ⟨1937, 1937, 4, .on 4, .standard 7200, 3600⟩, ⟨1938, 1938, 3, .on 27, .standard 7200, 3600⟩,
  ⟨1939, 1939, 4, .on 16, .standard 7200, 3600⟩, ⟨1939, 1939, 11, .on 19, .standard 7200, 0⟩,
  ⟨1940, 1940, 2, .on 25, .standard 7200, 3600⟩, ⟨1944, 1944, 9, .on 17, .standard 7200, 0⟩,
  ⟨1945, 1945, 4, .on 2, .standard 7200, 3600⟩, ⟨1945, 1945, 9, .on 16, .standard 7200, 0⟩,
  ⟨1946, 1946, 5, .on 19, .standard 7200, 3600⟩, ⟨1946, 1946, 10, .on 7, .standard 7200, 0⟩]

/-- The rules of Bulgaria. -/
def bulgaria : List Rule := [
  ⟨1979, 1979, 3, .on 31, .wall 82800, 3600⟩, ⟨1979, 1979, 10, .on 1, .wall 3600, 0⟩,
  ⟨1980, 1982, 4, .since 5 1, .wall 82800, 3600⟩, ⟨1980, 1980, 9, .on 29, .wall 3600, 0⟩,
  ⟨1981, 1981, 9, .on 27, .wall 7200, 0⟩]

/-- The rules of Czechia. -/
def czechia : List Rule := [
  ⟨1945, 1945, 4, .since 0 1, .standard 7200, 3600⟩, ⟨1945, 1945, 10, .on 1, .standard 7200, 0⟩,
  ⟨1946, 1946, 5, .on 6, .standard 7200, 3600⟩, ⟨1946, 1949, 10, .since 6 1, .standard 7200, 0⟩,
  ⟨1947, 1948, 4, .since 6 15, .standard 7200, 3600⟩, ⟨1949, 1949, 4, .on 9, .standard 7200, 3600⟩]

/-- The rules of Finland. -/
def finland : List Rule := [
  ⟨1942, 1942, 4, .on 2, .wall 86400, 3600⟩, ⟨1942, 1942, 10, .on 4, .wall 3600, 0⟩,
  ⟨1981, 1982, 3, .last 6, .wall 7200, 3600⟩, ⟨1981, 1982, 9, .last 6, .wall 10800, 0⟩]

/-- The rules of France. -/
def france : List Rule := [
  ⟨1916, 1916, 6, .on 14, .standard 82800, 3600⟩, ⟨1916, 1919, 10, .since 6 1, .standard 82800, 0⟩,
  ⟨1917, 1917, 3, .on 24, .standard 82800, 3600⟩, ⟨1918, 1918, 3, .on 9, .standard 82800, 3600⟩,
  ⟨1919, 1919, 3, .on 1, .standard 82800, 3600⟩, ⟨1920, 1920, 2, .on 14, .standard 82800, 3600⟩,
  ⟨1920, 1920, 10, .on 23, .standard 82800, 0⟩, ⟨1921, 1921, 3, .on 14, .standard 82800, 3600⟩,
  ⟨1921, 1921, 10, .on 25, .standard 82800, 0⟩, ⟨1922, 1922, 3, .on 25, .standard 82800, 3600⟩,
  ⟨1922, 1938, 10, .since 5 1, .standard 82800, 0⟩, ⟨1923, 1923, 5, .on 26, .standard 82800, 3600⟩,
  ⟨1924, 1924, 3, .on 29, .standard 82800, 3600⟩, ⟨1925, 1925, 4, .on 4, .standard 82800, 3600⟩,
  ⟨1926, 1926, 4, .on 17, .standard 82800, 3600⟩, ⟨1927, 1927, 4, .on 9, .standard 82800, 3600⟩,
  ⟨1928, 1928, 4, .on 14, .standard 82800, 3600⟩, ⟨1929, 1929, 4, .on 20, .standard 82800, 3600⟩,
  ⟨1930, 1930, 4, .on 12, .standard 82800, 3600⟩, ⟨1931, 1931, 4, .on 18, .standard 82800, 3600⟩,
  ⟨1932, 1932, 4, .on 2, .standard 82800, 3600⟩, ⟨1933, 1933, 3, .on 25, .standard 82800, 3600⟩,
  ⟨1934, 1934, 4, .on 7, .standard 82800, 3600⟩, ⟨1935, 1935, 3, .on 30, .standard 82800, 3600⟩,
  ⟨1936, 1936, 4, .on 18, .standard 82800, 3600⟩, ⟨1937, 1937, 4, .on 3, .standard 82800, 3600⟩,
  ⟨1938, 1938, 3, .on 26, .standard 82800, 3600⟩, ⟨1939, 1939, 4, .on 15, .standard 82800, 3600⟩,
  ⟨1939, 1939, 11, .on 18, .standard 82800, 0⟩, ⟨1940, 1940, 2, .on 25, .wall 7200, 3600⟩,
  ⟨1941, 1941, 5, .on 5, .wall 0, 7200⟩, ⟨1941, 1941, 10, .on 6, .wall 0, 3600⟩,
  ⟨1942, 1942, 3, .on 9, .wall 0, 7200⟩, ⟨1942, 1942, 11, .on 2, .wall 10800, 3600⟩,
  ⟨1943, 1943, 3, .on 29, .wall 7200, 7200⟩, ⟨1943, 1943, 10, .on 4, .wall 10800, 3600⟩,
  ⟨1944, 1944, 4, .on 3, .wall 7200, 7200⟩, ⟨1944, 1944, 10, .on 8, .wall 3600, 3600⟩,
  ⟨1945, 1945, 4, .on 2, .wall 7200, 7200⟩, ⟨1945, 1945, 9, .on 16, .wall 10800, 0⟩,
  ⟨1976, 1976, 3, .on 28, .wall 3600, 3600⟩, ⟨1976, 1976, 9, .on 26, .wall 3600, 0⟩]

/-- The rules of Germany. -/
def germany : List Rule := [
  ⟨1946, 1946, 4, .on 14, .standard 7200, 3600⟩, ⟨1946, 1946, 10, .on 7, .standard 7200, 0⟩,
  ⟨1947, 1949, 10, .since 6 1, .standard 7200, 0⟩, ⟨1947, 1947, 4, .on 6, .standard 10800, 3600⟩,
  ⟨1947, 1947, 5, .on 11, .standard 7200, 7200⟩, ⟨1947, 1947, 6, .on 29, .wall 10800, 3600⟩,
  ⟨1948, 1948, 4, .on 18, .standard 7200, 3600⟩, ⟨1949, 1949, 4, .on 10, .standard 7200, 3600⟩]

/-- The rules of Berlin in 1945. -/
def berlin : List Rule := [
  ⟨1945, 1945, 5, .on 24, .wall 7200, 7200⟩, ⟨1945, 1945, 9, .on 24, .wall 10800, 3600⟩,
  ⟨1945, 1945, 11, .on 18, .standard 7200, 0⟩]

/-- The rules of Greece. -/
def greece : List Rule := [
  ⟨1932, 1932, 7, .on 7, .wall 0, 3600⟩, ⟨1932, 1932, 9, .on 1, .wall 0, 0⟩,
  ⟨1941, 1941, 4, .on 7, .wall 0, 3600⟩, ⟨1942, 1942, 11, .on 2, .wall 10800, 0⟩,
  ⟨1943, 1943, 3, .on 30, .wall 0, 3600⟩, ⟨1943, 1943, 10, .on 4, .wall 0, 0⟩,
  ⟨1952, 1952, 7, .on 1, .wall 0, 3600⟩, ⟨1952, 1952, 11, .on 2, .wall 0, 0⟩,
  ⟨1975, 1975, 4, .on 12, .standard 0, 3600⟩, ⟨1975, 1975, 11, .on 26, .standard 0, 0⟩,
  ⟨1976, 1976, 4, .on 11, .standard 7200, 3600⟩, ⟨1976, 1976, 10, .on 10, .standard 7200, 0⟩,
  ⟨1977, 1978, 4, .since 6 1, .standard 7200, 3600⟩, ⟨1977, 1977, 9, .on 26, .standard 7200, 0⟩,
  ⟨1978, 1978, 9, .on 24, .wall 14400, 0⟩, ⟨1979, 1979, 4, .on 1, .wall 32400, 3600⟩,
  ⟨1979, 1979, 9, .on 29, .wall 7200, 0⟩, ⟨1980, 1980, 4, .on 1, .wall 0, 3600⟩,
  ⟨1980, 1980, 9, .on 28, .wall 0, 0⟩]

/-- The rules of Hungary. -/
def hungary : List Rule := [
  ⟨1918, 1919, 4, .on 15, .wall 7200, 3600⟩, ⟨1918, 1920, 9, .since 0 15, .wall 10800, 0⟩,
  ⟨1920, 1920, 4, .on 5, .wall 7200, 3600⟩, ⟨1945, 1945, 5, .on 1, .wall 82800, 3600⟩,
  ⟨1945, 1945, 11, .on 1, .wall 3600, 0⟩, ⟨1946, 1946, 3, .on 31, .standard 7200, 3600⟩,
  ⟨1946, 1946, 10, .on 7, .wall 7200, 0⟩, ⟨1947, 1949, 4, .since 6 4, .standard 7200, 3600⟩,
  ⟨1947, 1949, 10, .since 6 1, .standard 7200, 0⟩, ⟨1954, 1954, 5, .on 23, .wall 0, 3600⟩,
  ⟨1954, 1954, 10, .on 3, .wall 0, 0⟩, ⟨1955, 1955, 5, .on 22, .wall 7200, 3600⟩,
  ⟨1955, 1955, 10, .on 2, .wall 10800, 0⟩, ⟨1956, 1957, 6, .since 6 1, .wall 7200, 3600⟩,
  ⟨1956, 1957, 9, .last 6, .wall 10800, 0⟩, ⟨1980, 1980, 4, .on 6, .wall 0, 3600⟩,
  ⟨1980, 1980, 9, .on 28, .wall 3600, 0⟩, ⟨1981, 1983, 3, .last 6, .wall 0, 3600⟩,
  ⟨1981, 1983, 9, .last 6, .wall 3600, 0⟩]

/-- The rules of Italy. -/
def italy : List Rule := [
  ⟨1916, 1916, 6, .on 3, .wall 86400, 3600⟩, ⟨1916, 1917, 9, .on 30, .wall 86400, 0⟩,
  ⟨1917, 1917, 3, .on 31, .wall 86400, 3600⟩, ⟨1918, 1918, 3, .on 9, .wall 86400, 3600⟩,
  ⟨1918, 1918, 10, .on 6, .wall 86400, 0⟩, ⟨1919, 1919, 3, .on 1, .wall 86400, 3600⟩,
  ⟨1919, 1919, 10, .on 4, .wall 86400, 0⟩, ⟨1920, 1920, 3, .on 20, .wall 86400, 3600⟩,
  ⟨1920, 1920, 9, .on 18, .wall 86400, 0⟩, ⟨1940, 1940, 6, .on 14, .wall 86400, 3600⟩,
  ⟨1942, 1942, 11, .on 2, .standard 7200, 0⟩, ⟨1943, 1943, 3, .on 29, .standard 7200, 3600⟩,
  ⟨1943, 1943, 10, .on 4, .standard 7200, 0⟩, ⟨1944, 1944, 4, .on 2, .standard 7200, 3600⟩,
  ⟨1944, 1944, 9, .on 17, .standard 7200, 0⟩, ⟨1945, 1945, 4, .on 2, .wall 7200, 3600⟩,
  ⟨1945, 1945, 9, .on 15, .wall 3600, 0⟩, ⟨1946, 1946, 3, .on 17, .standard 7200, 3600⟩,
  ⟨1946, 1946, 10, .on 6, .standard 7200, 0⟩, ⟨1947, 1947, 3, .on 16, .standard 0, 3600⟩,
  ⟨1947, 1947, 10, .on 5, .standard 0, 0⟩, ⟨1948, 1948, 2, .on 29, .standard 7200, 3600⟩,
  ⟨1948, 1948, 10, .on 3, .standard 7200, 0⟩, ⟨1966, 1968, 5, .since 6 22, .standard 0, 3600⟩,
  ⟨1966, 1966, 9, .on 24, .wall 86400, 0⟩, ⟨1967, 1969, 9, .since 6 22, .standard 0, 0⟩,
  ⟨1969, 1969, 6, .on 1, .standard 0, 3600⟩, ⟨1970, 1970, 5, .on 31, .standard 0, 3600⟩,
  ⟨1970, 1970, 9, .last 6, .standard 0, 0⟩, ⟨1971, 1972, 5, .since 6 22, .standard 0, 3600⟩,
  ⟨1971, 1971, 9, .last 6, .standard 0, 0⟩, ⟨1972, 1972, 10, .on 1, .standard 0, 0⟩,
  ⟨1973, 1973, 6, .on 3, .standard 0, 3600⟩, ⟨1973, 1974, 9, .last 6, .standard 0, 0⟩,
  ⟨1974, 1974, 5, .on 26, .standard 0, 3600⟩, ⟨1975, 1975, 6, .on 1, .standard 0, 3600⟩,
  ⟨1975, 1977, 9, .last 6, .standard 0, 0⟩, ⟨1976, 1976, 5, .on 30, .standard 0, 3600⟩,
  ⟨1977, 1979, 5, .since 6 22, .standard 0, 3600⟩, ⟨1978, 1978, 10, .on 1, .standard 0, 0⟩,
  ⟨1979, 1979, 9, .on 30, .standard 0, 0⟩]

/-- The rules of Latvia. -/
def latvia : List Rule := [
  ⟨1989, 1996, 3, .last 6, .standard 7200, 3600⟩, ⟨1989, 1996, 9, .last 6, .standard 7200, 0⟩]

/-- The rules of Malta. -/
def malta : List Rule := [
  ⟨1973, 1973, 3, .on 31, .standard 0, 3600⟩, ⟨1973, 1973, 9, .on 29, .standard 0, 0⟩,
  ⟨1974, 1974, 4, .on 21, .standard 0, 3600⟩, ⟨1974, 1974, 9, .on 16, .standard 0, 0⟩,
  ⟨1975, 1979, 4, .since 6 15, .wall 7200, 3600⟩, ⟨1975, 1980, 9, .since 6 15, .wall 7200, 0⟩,
  ⟨1980, 1980, 3, .on 31, .wall 7200, 3600⟩]

/-- The rules of Moldova. -/
def moldova : List Rule := [
  ⟨1997, 2021, 3, .last 6, .wall 7200, 3600⟩, ⟨1997, 2021, 10, .last 6, .wall 10800, 0⟩]

/-- The rules of Poland. -/
def poland : List Rule := [
  ⟨1918, 1919, 9, .on 16, .standard 7200, 0⟩, ⟨1919, 1919, 4, .on 15, .standard 7200, 3600⟩,
  ⟨1944, 1944, 4, .on 3, .standard 7200, 3600⟩, ⟨1944, 1944, 10, .on 4, .wall 7200, 0⟩,
  ⟨1945, 1945, 4, .on 29, .wall 0, 3600⟩, ⟨1945, 1945, 11, .on 1, .wall 0, 0⟩,
  ⟨1946, 1946, 4, .on 14, .standard 0, 3600⟩, ⟨1946, 1946, 10, .on 7, .standard 7200, 0⟩,
  ⟨1947, 1947, 5, .on 4, .standard 7200, 3600⟩, ⟨1947, 1949, 10, .since 6 1, .standard 7200, 0⟩,
  ⟨1948, 1948, 4, .on 18, .standard 7200, 3600⟩, ⟨1949, 1949, 4, .on 10, .standard 7200, 3600⟩,
  ⟨1957, 1957, 6, .on 2, .standard 3600, 3600⟩, ⟨1957, 1958, 9, .last 6, .standard 3600, 0⟩,
  ⟨1958, 1958, 3, .on 30, .standard 3600, 3600⟩, ⟨1959, 1959, 5, .on 31, .standard 3600, 3600⟩,
  ⟨1959, 1961, 10, .since 6 1, .standard 3600, 0⟩, ⟨1960, 1960, 4, .on 3, .standard 3600, 3600⟩,
  ⟨1961, 1964, 5, .last 6, .standard 3600, 3600⟩, ⟨1962, 1964, 9, .last 6, .standard 3600, 0⟩]

/-- The rules of Portugal. -/
def portugal : List Rule := [
  ⟨1916, 1916, 6, .on 17, .wall 82800, 3600⟩, ⟨1916, 1916, 11, .on 1, .wall 3600, 0⟩,
  ⟨1917, 1921, 3, .on 1, .wall 0, 3600⟩, ⟨1917, 1921, 10, .on 14, .wall 86400, 0⟩,
  ⟨1924, 1924, 4, .on 16, .standard 82800, 3600⟩, ⟨1924, 1924, 10, .on 4, .standard 82800, 0⟩,
  ⟨1926, 1926, 4, .on 17, .standard 82800, 3600⟩, ⟨1926, 1929, 10, .since 5 1, .standard 82800, 0⟩,
  ⟨1927, 1927, 4, .on 9, .standard 82800, 3600⟩, ⟨1928, 1928, 4, .on 14, .standard 82800, 3600⟩,
  ⟨1929, 1929, 4, .on 20, .standard 82800, 3600⟩, ⟨1931, 1931, 4, .on 18, .standard 82800, 3600⟩,
  ⟨1931, 1932, 10, .since 5 1, .standard 82800, 0⟩, ⟨1932, 1932, 4, .on 2, .standard 82800, 3600⟩,
  ⟨1934, 1934, 4, .on 7, .standard 82800, 3600⟩, ⟨1934, 1938, 10, .since 5 1, .standard 82800, 0⟩,
  ⟨1935, 1935, 3, .on 30, .standard 82800, 3600⟩, ⟨1936, 1936, 4, .on 18, .standard 82800, 3600⟩,
  ⟨1937, 1937, 4, .on 3, .standard 82800, 3600⟩, ⟨1938, 1938, 3, .on 26, .standard 82800, 3600⟩,
  ⟨1939, 1939, 4, .on 15, .standard 82800, 3600⟩, ⟨1939, 1939, 11, .on 18, .standard 82800, 0⟩,
  ⟨1940, 1940, 2, .on 24, .standard 82800, 3600⟩, ⟨1940, 1940, 10, .on 7, .standard 82800, 0⟩,
  ⟨1941, 1941, 4, .on 5, .standard 82800, 3600⟩, ⟨1941, 1941, 10, .on 5, .standard 82800, 0⟩,
  ⟨1942, 1945, 3, .since 5 8, .standard 82800, 3600⟩,
  ⟨1942, 1942, 4, .on 25, .standard 79200, 7200⟩, ⟨1942, 1942, 8, .on 15, .standard 79200, 3600⟩,
  ⟨1942, 1945, 10, .since 5 24, .standard 82800, 0⟩, ⟨1943, 1943, 4, .on 17, .standard 79200, 7200⟩,
  ⟨1943, 1945, 8, .since 5 25, .standard 79200, 3600⟩,
  ⟨1944, 1945, 4, .since 5 21, .standard 79200, 7200⟩,
  ⟨1946, 1946, 4, .since 5 1, .standard 82800, 3600⟩,
  ⟨1946, 1946, 10, .since 5 1, .standard 82800, 0⟩,
  ⟨1947, 1966, 4, .since 6 1, .standard 7200, 3600⟩,
  ⟨1947, 1965, 10, .since 6 1, .standard 7200, 0⟩, ⟨1976, 1976, 9, .last 6, .wall 3600, 0⟩,
  ⟨1977, 1977, 3, .last 6, .standard 0, 3600⟩, ⟨1977, 1977, 9, .last 6, .standard 0, 0⟩,
  ⟨1978, 1980, 4, .since 6 1, .standard 3600, 3600⟩, ⟨1978, 1978, 10, .on 1, .standard 3600, 0⟩,
  ⟨1979, 1980, 9, .last 6, .standard 3600, 0⟩, ⟨1981, 1986, 3, .last 6, .standard 0, 3600⟩,
  ⟨1981, 1985, 9, .last 6, .standard 0, 0⟩]

/-- The rules of Romania. -/
def romania : List Rule := [
  ⟨1932, 1932, 5, .on 21, .standard 0, 3600⟩, ⟨1932, 1939, 10, .since 6 1, .standard 0, 0⟩,
  ⟨1933, 1939, 4, .since 6 2, .standard 0, 3600⟩, ⟨1979, 1979, 5, .on 27, .wall 0, 3600⟩,
  ⟨1979, 1979, 9, .last 6, .wall 0, 0⟩, ⟨1980, 1980, 4, .on 5, .wall 82800, 3600⟩,
  ⟨1980, 1980, 9, .last 6, .wall 3600, 0⟩, ⟨1991, 1993, 3, .last 6, .standard 0, 3600⟩,
  ⟨1991, 1993, 9, .last 6, .standard 0, 0⟩]

/-- The rules of Spain. -/
def spain : List Rule := [
  ⟨1918, 1918, 4, .on 15, .wall 82800, 3600⟩, ⟨1918, 1919, 10, .on 6, .standard 86400, 0⟩,
  ⟨1919, 1919, 4, .on 6, .wall 82800, 3600⟩, ⟨1924, 1924, 4, .on 16, .wall 82800, 3600⟩,
  ⟨1924, 1924, 10, .on 4, .standard 86400, 0⟩, ⟨1926, 1926, 4, .on 17, .wall 82800, 3600⟩,
  ⟨1926, 1929, 10, .since 5 1, .standard 86400, 0⟩, ⟨1927, 1927, 4, .on 9, .wall 82800, 3600⟩,
  ⟨1928, 1928, 4, .on 15, .wall 0, 3600⟩, ⟨1929, 1929, 4, .on 20, .wall 82800, 3600⟩,
  ⟨1937, 1937, 6, .on 16, .wall 82800, 3600⟩, ⟨1937, 1937, 10, .on 2, .standard 86400, 0⟩,
  ⟨1938, 1938, 4, .on 2, .wall 82800, 3600⟩, ⟨1938, 1938, 4, .on 30, .wall 82800, 7200⟩,
  ⟨1938, 1938, 10, .on 2, .wall 86400, 3600⟩, ⟨1939, 1939, 10, .on 7, .standard 86400, 0⟩,
  ⟨1942, 1942, 5, .on 2, .wall 82800, 3600⟩, ⟨1942, 1942, 9, .on 1, .wall 3600, 0⟩,
  ⟨1943, 1946, 4, .since 5 13, .wall 82800, 3600⟩, ⟨1943, 1944, 10, .since 6 1, .wall 3600, 0⟩,
  ⟨1945, 1946, 9, .last 6, .wall 3600, 0⟩, ⟨1949, 1949, 4, .on 30, .wall 82800, 3600⟩,
  ⟨1949, 1949, 10, .on 2, .wall 3600, 0⟩, ⟨1974, 1975, 4, .since 5 12, .wall 82800, 3600⟩,
  ⟨1974, 1975, 10, .since 6 1, .wall 3600, 0⟩, ⟨1976, 1976, 3, .on 27, .wall 82800, 3600⟩,
  ⟨1976, 1977, 9, .last 6, .wall 3600, 0⟩, ⟨1977, 1977, 4, .on 2, .wall 82800, 3600⟩,
  ⟨1978, 1978, 4, .on 2, .standard 7200, 3600⟩, ⟨1978, 1978, 10, .on 1, .standard 7200, 0⟩]

/-- The rules of Ceuta. -/
def ceuta : List Rule := [
  ⟨1967, 1967, 6, .on 3, .wall 43200, 3600⟩, ⟨1967, 1967, 10, .on 1, .wall 0, 0⟩,
  ⟨1974, 1974, 6, .on 24, .wall 0, 3600⟩, ⟨1974, 1974, 9, .on 1, .wall 0, 0⟩,
  ⟨1976, 1977, 5, .on 1, .wall 0, 3600⟩, ⟨1976, 1976, 8, .on 1, .wall 0, 0⟩,
  ⟨1977, 1977, 9, .on 28, .wall 0, 0⟩, ⟨1978, 1978, 6, .on 1, .wall 0, 3600⟩,
  ⟨1978, 1978, 8, .on 4, .wall 0, 0⟩]

/-- The rules of Switzerland. -/
def switzerland : List Rule := [
  ⟨1941, 1942, 5, .since 0 1, .wall 3600, 3600⟩, ⟨1941, 1942, 10, .since 0 1, .wall 7200, 0⟩]

/-- The rules of Turkey. -/
def turkey : List Rule := [
  ⟨1916, 1916, 5, .on 1, .wall 0, 3600⟩, ⟨1916, 1916, 10, .on 1, .wall 0, 0⟩,
  ⟨1920, 1920, 3, .on 28, .wall 0, 3600⟩, ⟨1920, 1920, 10, .on 25, .wall 0, 0⟩,
  ⟨1921, 1921, 4, .on 3, .wall 0, 3600⟩, ⟨1921, 1921, 10, .on 3, .wall 0, 0⟩,
  ⟨1922, 1922, 3, .on 26, .wall 0, 3600⟩, ⟨1922, 1922, 10, .on 8, .wall 0, 0⟩,
  ⟨1924, 1924, 5, .on 13, .wall 0, 3600⟩, ⟨1924, 1925, 10, .on 1, .wall 0, 0⟩,
  ⟨1925, 1925, 5, .on 1, .wall 0, 3600⟩, ⟨1940, 1940, 7, .on 1, .wall 0, 3600⟩,
  ⟨1940, 1940, 10, .on 6, .wall 0, 0⟩, ⟨1940, 1940, 12, .on 1, .wall 0, 3600⟩,
  ⟨1941, 1941, 9, .on 21, .wall 0, 0⟩, ⟨1942, 1942, 4, .on 1, .wall 0, 3600⟩,
  ⟨1945, 1945, 10, .on 8, .wall 0, 0⟩, ⟨1946, 1946, 6, .on 1, .wall 0, 3600⟩,
  ⟨1946, 1946, 10, .on 1, .wall 0, 0⟩, ⟨1947, 1948, 4, .since 6 16, .wall 0, 3600⟩,
  ⟨1947, 1951, 10, .since 6 2, .wall 0, 0⟩, ⟨1949, 1949, 4, .on 10, .wall 0, 3600⟩,
  ⟨1950, 1950, 4, .on 16, .wall 0, 3600⟩, ⟨1951, 1951, 4, .on 22, .wall 0, 3600⟩,
  ⟨1962, 1962, 7, .on 15, .wall 0, 3600⟩, ⟨1963, 1963, 10, .on 30, .wall 0, 0⟩,
  ⟨1964, 1964, 5, .on 15, .wall 0, 3600⟩, ⟨1964, 1964, 10, .on 1, .wall 0, 0⟩,
  ⟨1973, 1973, 6, .on 3, .wall 3600, 3600⟩, ⟨1973, 1976, 10, .since 6 31, .wall 7200, 0⟩,
  ⟨1974, 1974, 3, .on 31, .wall 7200, 3600⟩, ⟨1975, 1975, 3, .on 22, .wall 7200, 3600⟩,
  ⟨1976, 1976, 3, .on 21, .wall 7200, 3600⟩, ⟨1977, 1978, 4, .since 6 1, .wall 7200, 3600⟩,
  ⟨1977, 1978, 10, .since 6 15, .wall 7200, 0⟩, ⟨1978, 1978, 6, .on 29, .wall 0, 0⟩,
  ⟨1983, 1983, 7, .on 31, .wall 7200, 3600⟩, ⟨1983, 1983, 10, .on 2, .wall 7200, 0⟩,
  ⟨1985, 1985, 4, .on 20, .standard 3600, 3600⟩, ⟨1985, 1985, 9, .on 28, .standard 3600, 0⟩,
  ⟨1986, 1993, 3, .last 6, .standard 3600, 3600⟩, ⟨1986, 1995, 9, .last 6, .standard 3600, 0⟩,
  ⟨1994, 1994, 3, .on 20, .standard 3600, 3600⟩, ⟨1995, 2006, 3, .last 6, .standard 3600, 3600⟩,
  ⟨1996, 2006, 10, .last 6, .standard 3600, 0⟩]

end ForeignLayer.Calendar.Rules
