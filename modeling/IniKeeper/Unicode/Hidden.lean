import IniKeeper.Unicode.Run

/-!
# Hidden characters

Some characters print as nothing, as a gap, or on top of the character before them: controls, format
characters, separators other than the plain space, private and unassigned code points, and the marks
that extend the character before. The two voicing marks of half width print as letters of their own
and are not among them.
-/

namespace IniKeeper

namespace Unicode

namespace Hidden

/-- The table: `Y` marks hidden characters. -/
def rows : List String :=
  ["0N 20Y 5fN 22Y cN 1Y 252N 70Y 8N 2Y 6N 4Y 7N 1Y 1N 1Y 14N 1Y e0N 7Y a6N 1Y 26N 2Y 32N 2Y 3N",
   "2eY 1N 1Y 1N 2Y 1N 2Y 1N 9Y 1bN 4Y 6N 11Y aN bY 1N 1Y 2eN 15Y 10N 1Y 65N 8Y 1N 6Y 2N 2Y 1N",
   "4Y 20N 2Y 1N 1Y 1eN 1dY 59N bY 1N eY 2bN 9Y 7N 3Y 18N 4Y 1N 9Y 1N 3Y 1N 7Y fN 1Y 19N 5Y 1N",
   "1Y bN 5Y 20N 10Y 2aN 39Y 37N 1Y 1N 1Y 4N 8Y 4N 1Y 3N 7Y aN 2Y 1dN 1Y 2N 1Y 8N 2Y 2N 2Y 16N",
   "1Y 7N 1Y 1N 3Y 4N 3Y 1N 1Y 2N 6Y 2N 2Y 2N 1Y 1N dY 2N 1Y 3N 4Y 18N 5Y 1N 1Y 6N 4Y 2N 2Y 16N",
   "1Y 7N 1Y 2N 1Y 2N 1Y 2N 4Y 3N 18Y 4N 1Y 1N 7Y aN 2Y 3N 1Y 1N cY 1N 1Y 9N 1Y 3N 1Y 16N 1Y 7N",
   "1Y 2N 1Y 5N 3Y 4N 8Y 1N 1Y 2N 3Y 1N fY 2N 4Y cN 7Y 1N 8Y 2N 1Y 8N 2Y 2N 2Y 16N 1Y 7N 1Y 2N",
   "1Y 5N 3Y 1N 2Y 1N 6Y 2N 2Y 2N fY 2N 1Y 3N 4Y 12N bY 1N 1Y 6N 3Y 3N 1Y 4N 3Y 2N 1Y 1N 1Y 2N",
   "3Y 2N 3Y 3N 3Y cN 5Y 1N 1Y 2N 3Y 3N 1Y 3N 3Y 1N 15Y 15N 6Y 3N 1Y 8N 1Y 3N 1Y 17N 1Y 10N 3Y",
   "1N 3Y 4N 13Y 3N 1Y 2N 2Y 2N 4Y aN 7Y aN 1Y bN 1Y 3N 1Y 17N 1Y aN 1Y 5N 3Y 2N 2Y 1N 1Y 2N 17Y",
   "3N 1Y 2N 4Y aN 1Y 3N eY bN 1Y 3N 1Y 29N 2Y 1N 1Y 2N 5Y 3N 1Y 3N 1Y 2N 4Y 3N 1Y aN 4Y 1aN 2Y",
   "2N 1Y 12N 3Y 18N 1Y 9N 1Y 1N 2Y 7N 9Y 2N 6Y 7N 7Y aN 2Y 3N cY 30N 1Y 2N bY 8N 8Y dN 25Y 2N",
   "1Y 1N 1Y 5N 1Y 18N 1Y 1N 1Y aN 1Y 2N 9Y 1N 2Y 5N 1Y 1N 9Y aN 2Y 4N 20Y 18N 2Y 1bN 1Y 1N 1Y",
   "1N 1Y eN 1Y 24N 12Y 1N 5Y 1N 2Y 5N 31Y 8N 1Y 6N 1Y dN 25Y 2dN 4Y 1N 6Y 1N 2Y 2N 2Y 19N 2Y 4N",
   "3Y 10N 4Y dN 1Y 2N 2Y 6N 1Y fN 1Y 28N 1Y 1N 5Y 1N 2Y 179N 1Y 4N 2Y 7N 1Y 1N 1Y 4N 2Y 29N 1Y",
   "4N 2Y 21N 1Y 4N 2Y 7N 1Y 1N 1Y 4N 2Y fN 1Y 39N 1Y 4N 2Y 43N 5Y 1dN 3Y 1aN 6Y 56N 2Y 6N 2Y",
   "280N 1Y 1cN 3Y 59N 7Y 12N dY 13N 3Y 2N 9Y 12N eY dN 1Y 3N fY 34N 2Y 1N 7Y 8N 1Y 2N bY 9N 3Y",
   "aN 6Y aN 6Y bN 5Y aN 6Y 59N 7Y 5N 2Y 22N 1Y 1N 5Y 46N aY 1fN 4Y 4N 2Y 3N 4Y 2N 1Y 6N 7Y 1N",
   "3Y 2aN 2Y 5N bY 2cN 4Y 1aN 6Y bN 3Y 39N 2Y 2N 3Y 38N 1Y 1N 9Y 1N 1Y 2N 8Y 6N dY aN 6Y aN 6Y",
   "eN 56Y 30N aY 4N 3Y 8N 1Y 1dN 9Y cN 2Y 20N 4Y 2N 6Y 38N 1Y 1N 2Y 3N 1Y 1N dY 30N 8Y 2N 5Y fN",
   "3Y 3eN 5Y 2bN 2Y bN bY 1N dY 1N 7Y 4N 1Y 6N 1Y 3N 2Y 1N 5Y c0N 40Y 116N 2Y 6N 2Y 26N 2Y 6N",
   "2Y 8N 1Y 1N 1Y 1N 1Y 1N 1Y 1fN 2Y 35N 1Y fN 1Y eN 2Y 6N 1Y 13N 2Y 3N 1Y 9N 11Y 18N 8Y 2fN",
   "11Y 2N 2Y 1bN 1Y dN 3Y 22N 3eY 8cN 4Y 29aN 16Y bN 15Y 714N 2Y 179N 3Y 2N 5Y 2dN 1Y 1N 5Y 1N",
   "2Y 38N 7Y 2N fY 17N 9Y 7N 1Y 7N 1Y 7N 1Y 7N 1Y 7N 1Y 7N 1Y 7N 1Y 7N 21Y 5eN 22Y 1aN 1Y 59N",
   "cY d6N 1aY 10N 1Y 29N 6Y 10N 1Y 56N 4Y 65N 5Y 2bN 1Y 5eN 1Y 56N 9Y 30N 1Y 726dN 3Y 37N 9Y",
   "15cN 14Y 2fN 4Y 1N aY 20N 2Y 50N 2Y 6N 8Y ddN 14Y 11N 1Y 3N 1Y 4N 1Y 19N 2Y 5N 4Y aN 6Y 38N",
   "8Y 44N aY cN 18Y dN 1Y 26N 8Y 19N bY 1N cY 1eN 6Y 30N 1Y 2N 4Y 2N 2Y 2N 1Y dN 1Y bN 4Y 7N 1Y",
   "19N 1Y 29N 6Y 2N 2Y 2N bY 3N 1Y 8N 1Y 1N 2Y aN 2Y 20N 1Y 33N 1Y 1N 3Y 2N 2Y 5N 2Y 1N 1Y 1N",
   "18Y 11N 2Y 8N bY 6N 2Y 6N 2Y 6N 9Y 7N 1Y 7N 1Y 3cN 4Y 75N 1Y 2N 1Y 4N 3Y aN 6Y 2ba4N cY 17N",
   "4Y 31N 2104Y 16eN 2Y 6aN 26Y 7N cY 5N 5Y 1N 1Y 18N 1Y 5N 1Y 1N 1Y 2N 1Y 2N 1Y 28aN 20Y 10N",
   "10Y aN 16Y 23N 1Y 13N 1Y 4N 4Y 5N 1Y 87N 4Y beN 3Y 6N 2Y 6N 2Y 6N 2Y 3N 3Y 7N 1Y 7N dY 2N 2Y",
   "cN 1Y 1aN 1Y 13N 1Y 2N 1Y fN 2Y eN 22Y 7bN 5Y 3N 4Y 2dN 3Y 58N 1Y dN 3Y 1N 2fY 2dN 83Y 1dN",
   "3Y 31N 10Y 1bN 4Y 24N 9Y 1eN 5Y 26N aY 1eN 1Y 25N 4Y eN 2aY 9eN 2Y aN 6Y 24N 4Y 24N 4Y 28N",
   "8Y 34N bY cN 1Y fN 1Y 7N 1Y 2N 1Y bN 1Y fN 1Y 7N 1Y 2N 3Y 34N cY 137N 9Y 16N aY 8N 18Y 6N 1Y",
   "2aN 1Y 9N 45Y 6N 2Y 1N 1Y 2cN 1Y 2N 3Y 1N 2Y 17N 1Y 48N 8Y 9N 30Y 13N 1Y 2N 5Y 21N 3Y 1bN 5Y",
   "1bN 26Y 38N 4Y 14N 2Y 2fN fY 4N 1Y 3N 1Y 1dN aY 9N 7Y 9N 7Y 40N 20Y 25N 6Y cN 9Y 36N 3Y 1dN",
   "2Y 1bN 5Y 1aN 7Y 4N cY 7N 50Y 49N 37Y 33N dY 33N 7Y 2aN cY aN 6Y 26N 8Y 18N 8Y 2N d0Y 1fN 1Y",
   "2aN 3Y 1N 2Y 2N 10Y 6N 8Y 9N 27Y 28N 8Y 16N bY 9N 16Y 12N 4Y 4N 26Y 1cN 14Y 17N 9Y 1N 1Y 36N",
   "fY 7N 4Y 1eN 1Y 2N 2Y 1N cY 31N 4Y 2N 2Y 2N 1Y 4N eY 19N 7Y aN 9Y 24N 5Y 1N 9Y 12N 8Y 23N 1Y",
   "3N bY 34N 9Y 1N 1Y 8N 4Y 2N 1Y 10N 1Y 14N bY 12N 1Y 1cN 3Y 2N 4Y 6N 1Y 2N 3fY 7N 1Y 1N 1Y 4N",
   "1Y fN 1Y bN 6Y 2fN 1Y 3N dY aN 8Y 2N 1Y 8N 2Y 2N 2Y 16N 1Y 7N 1Y 2N 1Y 5N 3Y 1N 1Y 1N 1Y 4N",
   "2Y 2N 2Y 2N 3Y 1N cY 7N 1cY aN 1Y 1N 2Y 1N 1Y 26N 1Y 1N 1Y 2N fY 1N 1Y 2N 3Y 1N 1Y 3N 1Y 2N",
   "27Y 38N 8Y 2N 3Y 1N 1Y 15N 1Y 1N 1Y 3N 1eY 30N 1Y 2N 6Y 1N 1Y 2N 1Y 1N 2Y 1N 2Y 4N 8Y aN a6Y",
   "2fN 1Y 2N 6Y 4N 2Y 1N 2Y 1bN 24Y 33N 8Y 2N 1Y 1N 2Y 4N bY aN 6Y dN 13Y 2bN 1Y 1N 1Y 2N 8Y 2N",
   "6Y aN 6Y 14N 1cY 1bN 5Y 2N 4Y 1N 9Y 17N b9Y 2fN 9Y 1N 2Y 1N 64Y 53N cY 8N 2Y 1N 2Y 8N 1Y 2N",
   "1Y 18N 1Y 5N 1Y 2N 6Y 4N 1Y 3N 9Y aN 46Y 8N 2Y 2aN 8Y 4N 1Y 4N 1bY 1N aY 28N 6Y 2N 4Y 8N 9Y",
   "1N 6Y 2N 3Y 2eN dY 1N 2Y 9N dY 49N 7Y aN 57Y 1N 3Y 1N 1Y 1N 58Y 22N eY aN 6Y 9N 1Y 26N eY 1N",
   "1Y 6N aY 1dN 3Y 20N 19Y 1N 7Y 1N 2Y 1N 4bY 7N 1Y 2N 1Y 26N 15Y 1N 9Y aN 6Y 6N 1Y 2N 1Y 25N",
   "4Y 2N 1Y 1N 1Y 1N 7Y aN 6Y 2cN 4Y aN f6Y 13N 2Y 4N 9Y fN 1Y 24N 8Y 2N 3Y 17N 56Y 1N fY 32N",
   "dY 39bN 66Y 6fN 1Y 5N bY c4N a4cY 63N dY 430N 11Y 6N 19Y f9bN 5Y 247N 1ab9Y 1eN cY 3N 3Y aN",
   "6c6Y 239N 7Y 1fN 1Y aN 4Y 51N 1Y aN 6Y 1eN 7Y 1N aY 30N 7Y fN aY aN 1Y 7N 1Y 15N 5Y 13N 1b0Y",
   "3aN c6Y 5bN 5Y 19N 2Y 19N 2cY 4bN 5Y 38N bY dN 40Y 4N eY 5N 9Y 1cd6N 29Y 20N 61Y 73N 21fdY",
   "4N 1Y 7N 1Y 2N 1Y 123N fY 1N 1dY 3N 2Y 1N eY 4N 8Y 18cN 904Y 6bN 5Y dN 3Y 9N 7Y aN 2Y 1N 2Y",
   "1N f60Y fdN 3Y 1b4N 6Y 17N fY 11N 5fY 74N 3cY f6N aY 27N 2Y 3cN 5Y 3N 16Y 2N 7Y 1eN 4Y 3dN",
   "15Y 42N 3Y 1N 7aY 14N cY 14N cY 57N 9Y 19N 87Y 55N 1Y 47N 1Y 2N 2Y 1N 2Y 2N 2Y 4N 1Y cN 1Y",
   "1N 1Y 7N 1Y 41N 1Y 4N 2Y 8N 1Y 7N 1Y 1cN 1Y 4N 1Y 5N 1Y 1N 3Y 7N 1Y 154N 2Y 124N 2Y 232N 37Y",
   "4N 32Y 8N 1Y eN 1Y 7N 474Y 1fN 6Y 6N 105Y 3eN 92Y 2dN aY 7N 2Y aN 4Y 2N 140Y 1eN 12Y 2cN 4Y",
   "aN 5Y 1N 1d0Y 1cN 4Y aN d6Y 1eN 2Y bN 4Y 1N c0Y 1fN 1Y 3N 1Y 2N 1Y 7N 2Y 5N 9Y 2N e0Y 7N 1Y",
   "4N 1Y 2N 1Y fN 1Y c5N 2Y 9N 30Y 44N 7Y 1N 4Y aN 4Y 2N 311Y 44N 4cY 3dN c2Y 4N 1Y 1bN 1Y 2N",
   "1Y 1N 2Y 1N 1Y aN 1Y 4N 1Y 1N 1Y 1N 6Y 1N 4Y 1N 1Y 1N 1Y 1N 1Y 3N 1Y 2N 1Y 1N 2Y 1N 1Y 1N 1Y",
   "1N 1Y 1N 1Y 1N 1Y 2N 1Y 1N 2Y 4N 1Y 7N 1Y 4N 1Y 4N 1Y 1N 1Y aN 1Y 11N 5Y 3N 1Y 5N 1Y 11N 34Y",
   "2N 10eY 2cN 4Y 64N cY fN 2Y fN 1Y fN 1Y 25N aY aeN 38Y 1dN dY 2cN 4Y 9N 7Y 2N eY 6N 9aY 3d9N",
   "3Y 11N 3Y dN 3Y daN 6Y cN 4Y 1N fY cN 4Y 38N 8Y aN 6Y 28N 8Y 1eN 2Y cN 4Y 2N eY 9N 27Y 158N",
   "8Y eN 2Y dN 3Y bN 3Y 39N 1Y 1N 4Y 10N 2Y cN 4Y aN 7Y 93N 1Y 67N 405Y a6e0N 20Y 111eN 2Y",
   "168eN 2Y 1d31N fY 26eN 9a2Y 21eN 5e2Y 134bN 5Y 212aN dcb86Y"]

/-- The runs of hidden and other characters. -/
def runs : List (Run Bool) := Run.ofRows (fun mark _ => mark == 'Y') rows

end Hidden

/-- Whether a character prints as nothing, as a gap, or on top of its neighbour. -/
def isHidden (c : Char) : Bool := (Run.value? Hidden.runs c).getD false

end Unicode

end IniKeeper
