import IniKeeper.Unicode.Run

/-!
# Marks

A mark is a character that belongs to the one before it: it stands on it, around it or beside it.
-/

namespace IniKeeper

namespace Unicode

namespace Mark

/-- The table: `Y` marks marks. -/
def rows : List String :=
  ["300N 70Y 113N 7Y 107N 2dY 1N 1Y 1N 2Y 1N 2Y 1N 1Y 48N bY 30N 15Y 10N 1Y 65N 7Y 2N 6Y 2N 2Y",
   "1N 4Y 23N 1Y 1eN 1bY 5bN bY 3aN 9Y 9N 1Y 18N 4Y 1N 9Y 1N 3Y 1N 5Y 2bN 3Y 3bN 9Y 2aN 18Y 1N",
   "21Y 36N 3Y 1N 12Y 1N 7Y aN 2Y 1dN 3Y 38N 1Y 1N 7Y 2N 2Y 2N 3Y 9N 1Y aN 2Y 1aN 1Y 2N 3Y 38N",
   "1Y 1N 5Y 4N 2Y 2N 3Y 3N 1Y 1eN 2Y 3N 1Y bN 3Y 38N 1Y 1N 8Y 1N 3Y 1N 3Y 14N 2Y 16N 6Y 1N 3Y",
   "38N 1Y 1N 7Y 2N 2Y 2N 3Y 7N 3Y aN 2Y 1eN 1Y 3bN 5Y 3N 3Y 1N 4Y 9N 1Y 28N 5Y 37N 1Y 1N 7Y 1N",
   "3Y 1N 4Y 7N 2Y bN 2Y 1dN 3Y 38N 1Y 1N 7Y 1N 3Y 1N 4Y 7N 2Y bN 2Y fN 1Y cN 4Y 37N 2Y 1N 7Y 1N",
   "3Y 1N 4Y 9N 1Y aN 2Y 1dN 3Y 46N 1Y 4N 6Y 1N 1Y 1N 8Y 12N 2Y 3dN 1Y 2N 7Y cN 8Y 62N 1Y 2N 9Y",
   "bN 7Y 49N 2Y 1bN 1Y 1N 1Y 1N 1Y 4N 2Y 31N 14Y 1N 2Y 5N bY 1N 24Y 9N 1Y 64N 14Y 17N 4Y 4N 3Y",
   "1N 3Y 2N 7Y 3N 4Y dN cY 1N 1Y aN 4Y 2bfN 3Y 3b2N 4Y 1cN 3Y 1dN 2Y 1eN 2Y 40N 20Y 9N 1Y 2dN",
   "3Y 1N 1Y 75N 2Y 22N 1Y 76N cY 4N cY dbN 5Y 39N aY 1N 1dY 2N 1Y 30N 2eY 2N cY 14N 5Y 2fN 11Y",
   "26N 9Y cN 3Y 1eN dY 38N eY 30N 14Y 98N 3Y 1N 15Y 4N 1Y 6N 1Y 2N 3Y c6N 40Y 2d0N 21Y bfeN 3Y",
   "8dN 1Y 60N 20Y 22aN 6Y 69N 2Y 75d4N 4Y 1N aY 20N 2Y 50N 2Y 110N 1Y 3N 1Y 4N 1Y 17N 5Y 4N 1Y",
   "53N 2Y 32N 12Y 1aN 12Y dN 1Y 26N 8Y 19N dY 2cN 4Y 2fN eY 24N 1Y 43N eY cN 1Y 8N 2Y 2dN 3Y",
   "32N 1Y 1N 3Y 2N 2Y 5N 2Y 1N 1Y 29N 5Y 5N 2Y ecN 8Y 1N 2Y 4f30N 1Y 2e1N 10Y 10N 10Y 3cdN 1Y",
   "e2N 1Y 95N 5Y 686N 3Y 1N 2Y 5N 4Y 28N 3Y 4N 1Y a5N 2Y 23dN 4Y 41N 5Y 13dN 2Y 4dN 6Y 46N bY",
   "31N 4Y 7aN 3Y 35N fY 29N 1Y 2N 2Y aN 4Y 2dN bY 7N 1Y 3dN 3Y 24N eY 10N 2Y 2cN 1Y cN 3Y 30N",
   "eY 8N 4Y 1N 2Y 5cN cY 6N 1Y 2N 1Y 9dN cY 15N 4Y 37N 2Y 1N 7Y 2N 2Y 2N 3Y 9N 1Y aN 2Y 2N 7Y",
   "3N 5Y 43N 9Y 1N 1Y 2N 1Y 1N 4Y 1N 5Y 1N 1Y eN 2Y 52N 12Y 17N 1Y 51N 14Y ebN 7Y 2N 9Y 1bN 2Y",
   "52N 11Y 6aN dY 65N fY 100N fY f5N 6Y 1N 2Y 2N 4Y 1N 1Y 1N 2Y 8dN 7Y 2N 7Y 3N 1Y 1cN aY 28N",
   "7Y 1N 4Y 8N 1Y 9N bY 2eN 10Y c6N 8Y c7N 8Y 1N 8Y 52N 16Y 1N eY 7aN 6Y 3N 1Y 1N 2Y 1N 7Y 1N",
   "1Y 42N 5Y 1N 2Y 1N 5Y 15bN 4Y 9N 2Y 1N 1Y 30N 7Y 3N 5Y 17N 1Y 14e5N 1Y 6N fY 2cc8N 12Y 9c0N",
   "5Y 3bN 7Y 418N 1Y 1N 37Y 7N 4Y 51N 1Y bN 2Y 4cabN 2Y 1261N 2eY 2N 17Y 21eN 5Y 3N 6Y 8N 8Y 2N",
   "7Y 1eN 4Y 94N 3Y 7bbN 37Y 4N 32Y 8N 1Y eN 1Y 16N 5Y 1N fY 550N 7Y 1N 11Y 2N 7Y 1N 2Y 1N 5Y",
   "64N 1Y a0N 7Y 177N 1Y 3dN 4Y 1fcN 4Y feN 2Y f3N 1Y 2N 1Y 7N 2Y 5N 1Y 1daN 7Y 6dN 7Y c17b5N",
   "f0Y"]

/-- The runs of marks and other characters. -/
def runs : List (Run Bool) := Run.ofRows (fun mark _ => mark == 'Y') rows

end Mark

/-- Whether a character is a mark. -/
def isMark (c : Char) : Bool := (Run.value? Mark.runs c).getD false

end Unicode

end IniKeeper
