import IniKeeper.Unicode.Run

/-!
# Directions of writing

Where lines of both directions meet, every character counts as one of six kinds. Characters that no
domain may hold count like their neighbours here.
-/

namespace IniKeeper

namespace Unicode

/-- How a character takes part in the direction of its line. -/
inductive Direction where
  /-- A letter written from left to right. -/
  | leftToRight
  /-- A letter written from right to left. -/
  | rightToLeft
  /-- A digit of a number in European writing. -/
  | europeanNumber
  /-- A digit of a number in Arabic writing. -/
  | arabicNumber
  /-- A mark on the character before it. -/
  | attached
  /-- Signs, separators and whatever else has no direction of its own. -/
  | neutral
  deriving Repr, DecidableEq

namespace Direction

/-- The direction that a letter of the table stands for. -/
def ofMark : Char → Direction
  | 'L' => leftToRight
  | 'R' => rightToLeft
  | 'E' => europeanNumber
  | 'A' => arabicNumber
  | 'M' => attached
  | _ => neutral

/-- The table. -/
def rows : List String :=
  ["30O aE 27O 1aL 64O 18L 1O 1c1L 2O 7L eO 2L 1cO 1L 11O 71M 4L 2O 7fL 2O 8bL 8M ffL 7O 2dM 1R",
   "1M 1R 2M 1R 2M 1R 9M 36R 2O 1R 2O 1R 1O 1R 2O bM 30R 15M aA 1O 2A 3R 1M 65R 8M 1O 6M 2R 2M",
   "1O 4M 2R aE 17R 1M 1eR 1dM 59R bM 3aR 9M 2R 4O 3R 1M 18R 4M 1R 9M 1R 3M 1R 7M 29R 5M 39R 9M",
   "2aR 39M 37L 1M 1L 1M 4L 8M 4L 1M 3L fM 2L 2M 1dL 1M 3aL 1M 4L 6M 6L 1M 14L 4M cL 2O 7L 1O 2L",
   "5M 39L 2M 3L 1bM 14L 2M 3L 1M bL 2M 39L 1M 4L 8M 4L 3M 12L 4M bL 8O 1L 8M 3aL 1M 2L 1M 1L 6M",
   "6L aM bL 4M 1cL 1M 3dL 1M cL 3M 23L dO 1M 3L 1M 37L 1M 1L 3M 5L 12M aL 4M 12L 7O 2L 1M 3aL",
   "1M fL 9M dL 4M 1aL 2M 39L 2M 4L 5M 7L 1M 14L 4M 1bL 1M 48L 5M 3L 6M 59L 1M 2L bM 1O 7L 8M",
   "62L 1M 2L 9M bL 8M 48L 2M 1bL 1M 1L 1M 1L 1M 4O 33L eM 1L 5M 1L 2M 5L 31M 8L 1M 66L 4M 1L 6M",
   "1L 2M 2L 2M 19L 2M 4L 3M 10L 4M dL 1M 2L 2M 6L 1M fL 1M 2bfL 3M 30L 10O 60L 1O 29aL 5O 72L",
   "3M 1dL 2M 1eL eM 12L eM 37L 7M 8L 1M 2L bM 7L 1O 1L 3M 10L 20O 75L 2M 22L 1M 76L 3M 4L 2M 9L",
   "1M 6L 7M 6O 98L 22O 17L 2M 2L 3M 38L 1M 1L 9M 1L 1M 2L 8M 6L dM 30L 54M 30L 1M 1L 5M 1L 1M",
   "5L 1M 28L 9M cL 2M 20L 4M 2L 2M 1L 3M 38L 1M 1L 2M 3L 1M 1L 3M 3aL 8M 2L 5M 95L 3M 1L dM 1L",
   "7M 4L 1M 6L 1M 3L 2M c6L 41M 20bL c4O 34M 4aO 3cL 1acO 45L 1aO 1L 316O 1L 153O 100L 330O b5L",
   "7O 3L 4M 6L 7O 7fL 1M 60L 20M 205O 3L 19O 9L 4M 2L 1O 6L 4O 2L 4O 58L 4M 3L 1O 5aL 1O c4L",
   "30O 1bd0L 40O 5690L 40O 13dL 3O 5fL 4M 1O aM 3O 1dL 2M 50L 2M eL 23O 65L 1O 79L 1M 3L 1M 4L",
   "1M 19L 2M 1L 4O 4M 8L 8O 34L cO 44L aM 12L 12M dL 1M 26L 8M 19L bM 2eL 3M 30L 1M 2L 4M 2L 2M",
   "27L 1M 43L 6M 2L 2M 2L bM 3L 1M 8L 1M 2fL 1M 33L 1M 1L 3M 2L 2M 5L 2M 1L 1M 2aL 2M 8L bM 69L",
   "56O 25L 1M 2L 1M 4L 3M 4f2eL 94M 11R 25dO 25M 2eO 18dR 101L 1O 3eL 4dO 3L 40O 2dL 83M 60L 1M",
   "1fE 76L aM 480L 11fR 1O e1R fM 28R 8M a5R 6M 4eR 7O 1e4R cM 10A 29R 5M 1O f1R 20A 2bR 2M 23R",
   "2aO 6M 46R bM 31R 4M 7aR 1L 1M 36L fM bL 14O aL 1M 2L 2M aL 3M 31L 4M 2L 2M 7L eM 30L 3M 24L",
   "5M 1L 9M 3dL 1M cL 2M 34L 9M aL 4M 2L 1M 5fL 3M 2L 1M 1L 2M 6L 1M 2L 3fM 5fL 1M 3L dM 10L 2M",
   "39L 2M 3L 1M 25L 1aM 3bL 7M cL 1M 1L 1M 1L 1M eL 1fM 38L 8M 2L 3M 1L 1M 17L 1M 54L 6M 1L 1M",
   "4L 2M 1L 2M eeL 6M 4L 2M 1L 2M 1bL 24M 33L 8M 2L 1M 1L 2M 1fL 20O 2bL 1M 1L 1M 2L 6M 1L 1M",
   "65L 3M 2L 4M 1L 9M ffL 9M 1L 2M 100L 2M 1L 1M 4L 1M 90L 8M 4L 1M 20L 6M 2L 2M 28L 6M 2L 4M",
   "8L 9M 1L 6M 2L 3M 2eL dM 1L 2M c6L 1M 1L 3M 1L 1M c9L eM 54L 17M 1L 7M 1L 2M 1L 4bM 31L 15M",
   "1L 9M 40L 3M 2L 1M 1L 1M 15bL 2M bL 2M 34L 8M 2L 1M 1L 1M 17L 56M 25L 2aO 1441L 1M 6L 19M",
   "2cbeL cM 3L 3M 9c0L 5M 3bL 7M 418L 1M 3fL 4M 4fL 1O 1L cM 4cadL 2M f61L 300O 50M 217L 3M 11L",
   "8M 2L 7M 1eL 4M 3bL 59O 3M 7bO 40L 60O 6a0L 37M 4L 32M 8L 1M eL 1M 16L 465M 100L 100M 30L 7M",
   "177L 12M 2cL 4M fL 1d1O 1cL 4M feL 2M f3L 1M 2L 1M 7L 2M 5L 9M 102L d0R 52M 22R 7M 5a5R 260O",
   "1dL 3O 3dL 39O 7aL da0O f0000L"]

/-- The runs of characters of one direction. -/
def runs : List (Run Direction) := Run.ofRows (fun mark _ => ofMark mark) rows

/-- The direction of a character. -/
def of (c : Char) : Direction := (Run.value? runs c).getD leftToRight

end Direction

end Unicode

end IniKeeper
