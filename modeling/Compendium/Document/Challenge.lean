import Compendium.Decimal.Order
import Compendium.Decimal.Shortest
import Compendium.Phrase
import Compendium.Record

/-!
# Challenge ratings

A challenge rating is a number or a fraction.  Experience and the proficiency
bonus follow from it.
-/

namespace Compendium.Challenge

/-- The two sides of a fraction. -/
def fraction? (rating : List Char) : Option (List Char × List Char) :=
  match rating.dropWhile (· ≠ '/') with
  | [] => none
  | _ :: below => some (Chars.trim (rating.takeWhile (· ≠ '/')), Chars.trim below)

/-- The number that a rating writes, a fraction or a decimal number. -/
def parse? (rating : String) : Option Float :=
  let rating := Chars.trim rating.toList
  match fraction? rating with
  | none => Decimal.parseFloat? rating
  | some (above, below) => do
    let num ← Decimal.parseFloat? above
    let den ← Decimal.parseFloat? below
    if den == 0.0 then none else some (num / den)

/-- The place of a rating in the line of numbers.  A fraction that is no number
stands where its first side that is none stands, and lowest if both sides are
infinite. -/
def place? (rating : String) : Option Int :=
  match fraction? (Chars.trim rating.toList) with
  | none => Decimal.place? (Chars.trim rating.toList)
  | some (above, below) =>
    (parse? rating).map fun x =>
      if x.isNaN then
        ((Decimal.nanPlace? above) <|> (Decimal.nanPlace? below)).getD Decimal.lowestPlace
      else Decimal.place x

/-- The experience that defeating a creature of a rating gives. -/
def experience : List (String × Int) :=
  [("0", 10), ("1/8", 25), ("1/4", 50), ("1/2", 100), ("1", 200), ("2", 450), ("3", 700),
    ("4", 1100), ("5", 1800), ("6", 2300), ("7", 2900), ("8", 3900), ("9", 5000), ("10", 5900),
    ("11", 7200), ("12", 8400), ("13", 10000), ("14", 11500), ("15", 13000), ("16", 15000),
    ("17", 18000), ("18", 20000), ("19", 22000), ("20", 25000), ("21", 33000), ("22", 41000),
    ("23", 50000), ("24", 62000), ("25", 75000), ("26", 90000), ("27", 105000), ("28", 120000),
    ("29", 135000), ("30", 155000)]

/-- The rating of a creature, and its ratings at home and among its like. -/
structure Rating where
  text : String
  lair? : Option String
  coven? : Option String

/-- The rating of a record. -/
def Rating.ofRecord? (r : Record) : Option Rating :=
  match r.get? "cr" with
  | some (.str text) => some ⟨Text.trim text, none, none⟩
  | some (.num n) => some ⟨n.text, none, none⟩
  | some (.obj fields) =>
    let cr : Record := ⟨fields⟩
    (cr.text? "cr").map fun text => ⟨text, cr.text? "lair", cr.text? "coven"⟩
  | _ => none

/-- The experience for a rating that has one. -/
def points (rating : Option String) (circumstance : String) : String :=
  match rating.bind fun text => experience.lookup text with
  | some xp => ", or " ++ Phrase.thousands xp ++ " XP " ++ circumstance
  | none => ""

/-- A rating with the experience it gives. -/
def Rating.display (c : Rating) : String :=
  match experience.lookup c.text with
  | none => c.text
  | some xp =>
    c.text ++ " (" ++ Phrase.thousands xp ++ " XP" ++ points c.lair? "in lair" ++
      points c.coven? "when part of a coven" ++ ")"

/-- The proficiency bonus that goes with a rating: two, and one more for every
four full points above the first. -/
def proficiencyBonus (rating : Float) : Int :=
  if rating < 1.0 then 2 else 2 + Int.tdiv (Decimal.truncate rating - 1) 4

end Compendium.Challenge
