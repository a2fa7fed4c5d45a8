/-!
# Parts of a text

Texts are taken apart at a separator, at the first or the last place where it occurs, and at a fixed
word.
-/

namespace InstallerGateway

/-- What lies before and after the first `c`. -/
def splitFirst (c : Char) : List Char → Option (List Char × List Char)
  | [] => none
  | x :: rest =>
    if x = c then some ([], rest)
    else (splitFirst c rest).map fun p => (x :: p.1, p.2)

/-- What lies before and after the last `c`. -/
def splitLast (c : Char) : List Char → Option (List Char × List Char)
  | [] => none
  | x :: rest =>
    match splitLast c rest with
    | some (before, after) => some (x :: before, after)
    | none => if x = c then some ([], rest) else none

/-- The parts between the separators `c`; always at least one. -/
def splitAll (c : Char) : List Char → List (List Char)
  | [] => [[]]
  | x :: rest =>
    if x = c then [] :: splitAll c rest
    else
      match splitAll c rest with
      | [] => [[x]]
      | part :: parts => (x :: part) :: parts

/-- What follows a word at the start of a text. -/
def afterWord? : List Char → List Char → Option (List Char)
  | [], cs => some cs
  | _ :: _, [] => none
  | w :: word, c :: cs => if w = c then afterWord? word cs else none

/-- The text with the first occurrence of a word replaced. -/
def replaceFirst (word replacement : List Char) (cs : List Char) : List Char :=
  match afterWord? word cs with
  | some rest => replacement ++ rest
  | none =>
    match cs with
    | [] => []
    | c :: rest => c :: replaceFirst word replacement rest

/-- The first value that `f` finds in the text or in what is left of it after one or more
characters. -/
def firstFound? {α : Type} (f : List Char → Option α) : List Char → Option α
  | [] => f []
  | c :: rest => (f (c :: rest)).or (firstFound? f rest)

/-- The text without one line feed at its end. -/
def dropFinalBreak (cs : List Char) : List Char :=
  match cs.reverse with
  | '\n' :: rest => rest.reverse
  | _ => cs

end InstallerGateway
