import InstallerGateway.Datum.Literal

/-!
# Messages with places for values

A message may hold places that are filled in with values: `%s` takes a value as text, `%r` as a
literal, `%d` as an integer, and `%%` is a percent sign. All values have to be used, except that a
single mapping may be left over.
-/

namespace InstallerGateway.Message

/-- Why a message cannot be filled in. -/
inductive Fault where
  /-- The values do not fit the places. -/
  | mismatch
  /-- A place is of no known form, or asks for an integer where there is no number. -/
  | badPlace
  /-- A place asks for an integer where there is an infinity. -/
  | noInteger
  /-- An integer has too many digits to be written. -/
  | tooLong
  deriving DecidableEq

/-- A value as an integer. -/
def integer (d : Datum) : Except Fault Int :=
  match d with
  | .bool b => .ok (if b then 1 else 0)
  | .int n => .ok n
  | .float .nan => .error .badPlace
  | .float (.infinite _) => .error .noInteger
  | .float x => .ok (x.truncate?.getD 0)
  | _ => .error .mismatch

/-- What is written, unless it has too many digits. -/
def written : Option String → Except Fault (List Char)
  | some s => .ok s.toList
  | none => .error .tooLong

/-- The text of a value for the place with a letter. -/
def filled (letter : Char) (d : Datum) : Except Fault (List Char) :=
  match letter with
  | 's' => written (Literal.display? d d)
  | 'r' => written (Literal.literal? d d)
  | 'd' | 'i' | 'u' => do written (Numeral.text? (← integer d))
  | _ => .error .badPlace

/-- The message with its places filled in by the values, in order. None may be left over, unless
`mayRemain` says so. -/
def fill (mayRemain : Bool) : List Char → List Datum → Except Fault (List Char)
  | [], [] => .ok []
  | [], _ :: _ => if mayRemain then .ok [] else .error .mismatch
  | ['%'], _ => .error .badPlace
  | '%' :: '%' :: rest, values => (fill mayRemain rest values).map ('%' :: ·)
  | '%' :: letter :: rest, values =>
    match values with
    | [] => .error .mismatch
    | d :: more => do
      let text ← filled letter d
      return text ++ (← fill mayRemain rest more)
  | c :: rest, values => (fill mayRemain rest values).map (c :: ·)

/-- A message with values; without any it stands as it is. -/
def text (message : String) (values : List Datum) : Except Fault String :=
  match values with
  | [] => .ok message
  | [.map _ (_ :: _)] => (fill true message.toList values).map String.ofList
  | _ => (fill false message.toList values).map String.ofList

end InstallerGateway.Message
