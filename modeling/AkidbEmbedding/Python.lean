import Mathlib.Data.Rat.Defs
import Mathlib.Data.List.Dedup

/-!
# Python values read from a request line

`json.loads` turns one protocol line into a Python object: `None`, a bool, an
int, a float, a str, a list or a dict. The server reads members of that object
with `dict.get`, uses the model name as a dictionary key, formats values into
its error texts and tests `normalize` for truth. This module fixes those
operations as Python performs them, so that the server model can be read
against `onnx_server.py` line by line.

A finite float is given by its exact value; the decoder has rounded it to a
double, and `repr` rounds again to the nearest double, which changes nothing
for such a value, before printing the shortest decimal that rounds back to it,
as CPython's `float_repr` does. The decoder's `NaN` and `Infinity` extensions
and `-0.0` are floats too. Dictionary keys follow Python's equality: `True`,
`1` and `1.0` are one key, and a list or dict cannot be a key at all.
-/
namespace AkidbEmbedding.Python

/-- A Python float: a finite value, given exactly, `-0.0`, an infinity, or NaN. -/
inductive PyFloat where
  | finite (q : ℚ)
  | negativeZero
  | infinity (negative : Bool)
  | nan

/-- A value `json.loads` can return. A dict keeps its members in text order,
duplicates included; lookups see the last one, as Python's decoder does. -/
inductive Value where
  | none
  | bool (b : Bool)
  | int (i : Int)
  | float (x : PyFloat)
  | str (s : String)
  | list (items : List Value)
  | dict (members : List (String × Value))

/-- A raised exception: its class name and the text `str(e)` gives. -/
structure PyError where
  kind : String
  text : String

/-- `type(value).__name__`, which Python's own error texts quote. -/
def Value.typeName : Value → String
  | .none => "NoneType"
  | .bool _ => "bool"
  | .int _ => "int"
  | .float _ => "float"
  | .str _ => "str"
  | .list _ => "list"
  | .dict _ => "dict"

/-- Python's truth test, as `if normalize:` applies it. -/
def Value.truthy : Value → Bool
  | .none => false
  | .bool b => b
  | .int i => i != 0
  | .float (.finite q) => q != 0
  | .float .negativeZero => false
  | .float _ => true
  | .str s => !s.isEmpty
  | .list items => !items.isEmpty
  | .dict members => !members.isEmpty

section FloatRepr

/-- `n / d` rounded to the nearest integer, ties to even. -/
def roundHalfEven (n d : Nat) : Nat :=
  if 2 * (n % d) < d then n / d
  else if d < 2 * (n % d) then n / d + 1
  else if (n / d) % 2 = 0 then n / d else n / d + 1

/-- Whether `base ^ exponent ≤ a / b`. -/
def powLe (base : Nat) (exponent : Int) (a b : Nat) : Bool :=
  if 0 ≤ exponent then b * Nat.pow base exponent.toNat ≤ a else b ≤ a * Nat.pow base (-exponent).toNat

/-- The number of digits of `n` in base `base`. -/
def digitCount (base n : Nat) : Nat :=
  (Nat.toDigits base n).length

/-- `⌊log (a / b)⌋` in base `base`, for positive `a` and `b`: the difference of
the digit counts, or one less. -/
def floorLog (base a b : Nat) : Int :=
  let guess : Int := (digitCount base a : Int) - digitCount base b
  if powLe base guess a b then guess else guess - 1

/-- `a / b · base ^ (-exponent)`, as a numerator and a denominator. -/
def scaled (base : Nat) (exponent : Int) (a b : Nat) : Nat × Nat :=
  if 0 ≤ exponent then (a, b * Nat.pow base exponent.toNat) else (a * Nat.pow base (-exponent).toNat, b)

/-- The double nearest the positive rational `a / b`, ties to even, as `(m, e)`
with value `m · 2 ^ e`, where `2 ^ 52 ≤ m < 2 ^ 53` or `e = -1074`; `none` when
it rounds to infinity. -/
def nearestDouble (a b : Nat) : Option (Nat × Int) :=
  let e := max (floorLog 2 a b - 52) (-1074)
  let m := roundHalfEven (scaled 2 e a b).1 (scaled 2 e a b).2
  let (m, e) := if m = Nat.pow 2 53 then (Nat.pow 2 52, e + 1) else (m, e)
  if 971 < e then none else some (m, e)

/-- Of the two `n`-digit decimals `c · 10 ^ k` around the positive double
`m · 2 ^ e`, the nearer of those that round back to it, ties to an even `c`. -/
def nearestDigits (m : Nat) (e : Int) (n : Nat) : Option (Nat × Int) :=
  let a := m * Nat.pow 2 e.toNat
  let b := Nat.pow 2 (-e).toNat
  let k := floorLog 10 a b - n + 1
  let num := (scaled 10 k a b).1
  let den := (scaled 10 k a b).2
  let low := num / den
  let roundsBack (c : Nat) : Bool :=
    nearestDouble (scaled 10 (-k) c 1).1 (scaled 10 (-k) c 1).2 == some (m, e)
  if num % den = 0 then (if roundsBack low then some (low, k) else none)
  else
    let lowNearer := 2 * (num % den) < den ∨ (2 * (num % den) = den ∧ low % 2 = 0)
    match roundsBack low, roundsBack (low + 1) with
    | true, true => some (if lowNearer then low else low + 1, k)
    | true, false => some (low, k)
    | false, true => some (low + 1, k)
    | false, false => none

/-- `c · 10 ^ k` without the trailing zeros of `c`. -/
def stripZeros : Nat → Nat → Int → Nat × Int
  | 0, c, k => (c, k)
  | fuel + 1, c, k => if c % 10 = 0 ∧ c ≠ 0 then stripZeros fuel (c / 10) (k + 1) else (c, k)

/-- The shortest decimal `c · 10 ^ k` that rounds back to the positive double
`m · 2 ^ e`: seventeen digits always do. -/
def shortestDigits (m : Nat) (e : Int) : Nat × Int :=
  let (c, k) := ((List.range 17).findSome? fun n => nearestDigits m e (n + 1)).getD (m, 0)
  stripZeros 17 c k

/-- `n` zeros. -/
def zeros (n : Nat) : String :=
  ⟨List.replicate n '0'⟩

/-- `repr` of the decimal `0.d₁d₂…dₙ · 10 ^ decpt` with the digits `digits`:
`d.ddde±XX` when `decpt ≤ -4` or `16 < decpt`, and fixed notation otherwise,
with `.0` after an integral value. -/
def formatRepr (digits : String) (decpt : Int) : String :=
  if decpt ≤ -4 ∨ 16 < decpt then
    let mantissa := if digits.length = 1 then digits else digits.take 1 ++ "." ++ digits.drop 1
    let exponent := toString (decpt - 1).natAbs
    mantissa ++ "e" ++ (if decpt - 1 < 0 then "-" else "+") ++
      (if exponent.length < 2 then "0" ++ exponent else exponent)
  else if decpt ≤ 0 then "0." ++ zeros (-decpt).toNat ++ digits
  else if decpt < digits.length then digits.take decpt.toNat ++ "." ++ digits.drop decpt.toNat
  else digits ++ zeros (decpt.toNat - digits.length) ++ ".0"

/-- `repr` of the double nearest the positive rational `a / b`. -/
def reprPositive (a b : Nat) : String :=
  match nearestDouble a b with
  | none => "inf"
  | some (0, _) => "0.0"
  | some (m, e) =>
    let digits := toString (shortestDigits m e).1
    formatRepr digits (digits.length + (shortestDigits m e).2)

/-- `repr(x)` of a float. -/
def floatRepr : PyFloat → String
  | .finite q =>
    if q.num = 0 then "0.0"
    else if q.num < 0 then "-" ++ reprPositive q.num.natAbs q.den
    else reprPositive q.num.natAbs q.den
  | .negativeZero => "-0.0"
  | .infinity negative => if negative then "-inf" else "inf"
  | .nan => "nan"

example : floatRepr (.finite (mkRat 1 2)) = "0.5" := by decide
example : floatRepr (.finite (mkRat (10 ^ 16) 1)) = "1e+16" := by decide
example : floatRepr (.finite (mkRat (-1) 3)) = "-0.3333333333333333" := by decide

end FloatRepr

/-- One character of `repr` of a str between the quotes `quote`: the backslash,
the quote, tab, newline, carriage return and the other control characters are
escaped. -/
def escapeChar (quote c : Char) : String :=
  if c = quote ∨ c = '\\' then "\\" ++ c.toString
  else if c = '\t' then "\\t"
  else if c = '\n' then "\\n"
  else if c = '\r' then "\\r"
  else if c.toNat < 0x20 ∨ (0x7f ≤ c.toNat ∧ c.toNat ≤ 0xa0) ∨ c.toNat = 0xad then
    "\\x" ++ (if c.toNat < 0x10 then "0" else "") ++ String.mk (Nat.toDigits 16 c.toNat)
  else c.toString

/-- `repr(s)` of a str: between single quotes, unless it holds a single quote
and no double quote. -/
def strRepr (s : String) : String :=
  let quote := if '\x27' ∈ s.data ∧ '\x22' ∉ s.data then '\x22' else '\x27'
  quote.toString ++ String.join (s.data.map (escapeChar quote)) ++ quote.toString

mutual

/-- `repr(value)`. -/
def Value.repr : Value → String
  | .none => "None"
  | .bool b => if b then "True" else "False"
  | .int i => toString i
  | .float x => floatRepr x
  | .str s => strRepr s
  | .list items => "[" ++ ", ".intercalate (reprItems items) ++ "]"
  | .dict members => "\x7b" ++ ", ".intercalate (reprMembers members) ++ "\x7d"

/-- The reprs of a list's items. -/
def reprItems : List Value → List String
  | [] => []
  | item :: rest => item.repr :: reprItems rest

/-- The `'key': repr` entries of a dict. -/
def reprMembers : List (String × Value) → List String
  | [] => []
  | (key, item) :: rest => (strRepr key ++ ": " ++ item.repr) :: reprMembers rest

end

mutual

/-- Whether `json.dumps(value, allow_nan=False)` encodes the value: it raises
`ValueError` for a NaN or an infinite float anywhere in it. -/
def Value.finite : Value → Bool
  | .float (.infinity _) | .float .nan => false
  | .list items => finiteItems items
  | .dict members => finiteMembers members
  | _ => true

/-- Whether every item of a list encodes. -/
def finiteItems : List Value → Bool
  | [] => true
  | item :: rest => item.finite && finiteItems rest

/-- Whether every member of a dict encodes. -/
def finiteMembers : List (String × Value) → Bool
  | [] => true
  | (_, item) :: rest => item.finite && finiteMembers rest

end

/-- `str(value)`, the text an f-string inserts. -/
def Value.text : Value → String
  | .str s => s
  | value => value.repr

/-- `value.get(key, default)`: only a dict has the method. -/
def Value.get (value : Value) (key : String) (default : Value) : Except PyError Value :=
  match value with
  | .dict members => .ok ((members.reverse.lookup key).getD default)
  | other => .error ⟨"AttributeError", "'" ++ other.typeName ++ "' object has no attribute 'get'"⟩

/-- `len(value)`; a dict counts its distinct keys. -/
def Value.len : Value → Except PyError Nat
  | .str s => .ok s.length
  | .list items => .ok items.length
  | .dict members => .ok (members.map Prod.fst).dedup.length
  | other => .error ⟨"TypeError", "object of type '" ++ other.typeName ++ "' has no len()"⟩

/-- A dictionary key up to Python's equality: bools, ints and finite floats
compare as numbers, so they share one constructor. -/
inductive Key where
  | none
  | num (q : ℚ)
  | inf (negative : Bool)
  | nan
  | str (s : String)
  deriving DecidableEq

/-- Hashing a value for a dictionary lookup; lists and dicts raise. A NaN is
equal to nothing, and the server stores no key that is not a str, so its
lookups miss here as they do in Python. -/
def Value.hash : Value → Except PyError Key
  | .none => .ok .none
  | .bool b => .ok (.num (if b then 1 else 0))
  | .int i => .ok (.num i)
  | .float (.finite q) => .ok (.num q)
  | .float .negativeZero => .ok (.num 0)
  | .float (.infinity negative) => .ok (.inf negative)
  | .float .nan => .ok .nan
  | .str s => .ok (.str s)
  | other => .error ⟨"TypeError", "unhashable type: '" ++ other.typeName ++ "'"⟩

/-- `str(e)` of a `KeyError`: the repr of the missing key. The key does not
keep the type of a number, so an integral one is shown as an int. -/
def Key.repr : Key → String
  | .none => "None"
  | .num q => if q.den = 1 then toString q.num else floatRepr (.finite q)
  | .inf negative => if negative then "-inf" else "inf"
  | .nan => "nan"
  | .str s => strRepr s

/-- A str hashes to the key of its own text. -/
@[simp] theorem hash_str (s : String) : (Value.str s).hash = .ok (.str s) := rfl

/-- `str.isspace` for one character: the Unicode whitespace `str.strip` removes. -/
def isSpace (c : Char) : Bool :=
  c = ' ' || ('\t' ≤ c && c ≤ '\r') || ('\x1c' ≤ c && c ≤ '\x1f') || c = '\x85' ||
    c = '\xa0' || c = '\u1680' || ('\u2000' ≤ c && c ≤ '\u200a') || c = '\u2028' ||
    c = '\u2029' || c = '\u202f' || c = '\u205f' || c = '\u3000'

/-- `text.strip()`: whitespace removed from both ends. -/
def strip (text : String) : String :=
  ⟨((text.data.dropWhile isSpace).reverse.dropWhile isSpace).reverse⟩

/-- `text.replace("/", "_")`, a one-character replacement. -/
def replaceSlash (text : String) : String :=
  ⟨text.data.map fun c => if c = '/' then '_' else c⟩

/-- `text.endswith(suffix)`, compared character by character. -/
def endsWith (text suffix : String) : Bool :=
  suffix.data.isSuffixOf text.data

example : strip " \t{}\n" = "{}" := by decide

/-- A bind in `Except` that returned ran both of its parts. -/
theorem except_bind_ok {ε α β : Type} {x : Except ε α} {f : α → Except ε β} {value : β}
    (returned : (x >>= f) = .ok value) : ∃ first, x = .ok first ∧ f first = .ok value := by
  cases x with
  | error e => cases returned
  | ok first => exact ⟨first, rfl, returned⟩

/-- The state a piece of Python code leaves, with the value it returns or the
exception it raises. -/
abbrev Exec (σ α : Type) := σ × Except PyError α

section Statements

variable {σ α β : Type}

/-- One statement after another: the rest runs on the value a call returned, or
the call's exception propagates with the state as it was when it was raised. -/
def proceed (s : σ) (call : Except PyError α) (next : α → Exec σ β) : Exec σ β :=
  match call with
  | .ok value => next value
  | .error e => (s, .error e)

@[simp] theorem proceed_ok (s : σ) (value : α) (next : α → Exec σ β) :
    proceed s (.ok value) next = next value := rfl

@[simp] theorem proceed_error (s : σ) (e : PyError) (next : α → Exec σ β) :
    proceed s (.error e) next = (s, .error e) := rfl

/-- `try: body except Exception as e: return handler(e)`: the handler's value
replaces the exception, and the assignments made before the raise stay. -/
def rescue (body : Exec σ α) (handler : PyError → α) : Exec σ α :=
  (body.1, .ok (match body.2 with
    | .ok value => value
    | .error e => handler e))

/-- A rescued body never raises. -/
@[simp] theorem rescue_snd (body : Exec σ α) (handler : PyError → α) :
    (rescue body handler).2 = .ok (match body.2 with
      | .ok value => value
      | .error e => handler e) := rfl

/-- A rescued body leaves the state the body left. -/
@[simp] theorem rescue_fst (body : Exec σ α) (handler : PyError → α) :
    (rescue body handler).1 = body.1 := rfl

/-- Every value the code returns satisfies `post`; raising is allowed. -/
def Returns (post : α → Prop) (run : Exec σ α) : Prop :=
  ∀ value, run.2 = .ok value → post value

@[simp] theorem returns_proceed (post : β → Prop) (s : σ) (call : Except PyError α)
    (next : α → Exec σ β) :
    Returns post (proceed s call next) ↔ ∀ value, call = .ok value → Returns post (next value) := by
  cases call with
  | error e => simp [Returns, proceed]
  | ok value => simp [proceed]

@[simp] theorem returns_ok (post : α → Prop) (s : σ) (value : α) :
    Returns post (s, .ok value) ↔ post value := by
  simp [Returns]

@[simp] theorem returns_error (post : α → Prop) (s : σ) (e : PyError) :
    Returns post (s, .error e) := by
  simp [Returns]

/-- Code that runs a call and then `next` returns only what `next` may return. -/
theorem returns_proceed_of {post : β → Prop} {s : σ} {call : Except PyError α}
    {next : α → Exec σ β} (continued : ∀ value, Returns post (next value)) :
    Returns post (proceed s call next) := by
  cases call with
  | error e => exact returns_error post s e
  | ok value => exact continued value

/-- A rescued body returns what the body returns or what the handler makes of
the body's exception. -/
theorem returns_rescue (post : α → Prop) (body : Exec σ α) (handler : PyError → α)
    (returned : Returns post body) (handled : ∀ e, post (handler e)) :
    Returns post (rescue body handler) := by
  intro value rescued
  cases outcome : body.2 with
  | ok result => simp only [rescue_snd, outcome, Except.ok.injEq] at rescued; exact rescued ▸ returned result outcome
  | error e => simp only [rescue_snd, outcome, Except.ok.injEq] at rescued; exact rescued ▸ handled e

/-- The state the code leaves satisfies `post`, whether it returns or raises. -/
def Leaves (post : σ → Prop) (run : Exec σ α) : Prop :=
  post run.1

@[simp] theorem leaves_proceed (post : σ → Prop) (s : σ) (call : Except PyError α)
    (next : α → Exec σ β) :
    Leaves post (proceed s call next) ↔
      (∀ e, call = .error e → post s) ∧ ∀ value, call = .ok value → Leaves post (next value) := by
  cases call <;> simp [Leaves, proceed]

/-- A call keeps `post` when the state it may raise from does and every
continuation does. -/
theorem leaves_proceed_of {post : σ → Prop} {s : σ} {call : Except PyError α}
    {next : α → Exec σ β} (kept : post s) (continued : ∀ value, Leaves post (next value)) :
    Leaves post (proceed s call next) := by
  cases call with
  | error e => exact kept
  | ok value => exact continued value

@[simp] theorem leaves_pair (post : σ → Prop) (s : σ) (result : Except PyError α) :
    Leaves post (s, result) ↔ post s :=
  Iff.rfl

@[simp] theorem leaves_rescue (post : σ → Prop) (body : Exec σ α) (handler : PyError → α) :
    Leaves post (rescue body handler) ↔ Leaves post body :=
  Iff.rfl

/-- When the code returns, the state it leaves and the value it returns satisfy
`post` together. -/
def Ends (post : σ → α → Prop) (run : Exec σ α) : Prop :=
  ∀ value, run.2 = .ok value → post run.1 value

/-- Code that runs a call and then `next` ends as every continuation ends. -/
theorem ends_proceed_of {post : σ → β → Prop} {s : σ} {call : Except PyError α}
    {next : α → Exec σ β} (continued : ∀ value, Ends post (next value)) :
    Ends post (proceed s call next) := by
  cases call with
  | error e => intro _ raised; cases raised
  | ok value => exact continued value

/-- A rescued body ends as the body does, or with the handler's value in the
state the body left. -/
theorem ends_rescue {post : σ → α → Prop} {body : Exec σ α} {handler : PyError → α}
    (returned : Ends post body) (handled : ∀ e, post body.1 (handler e)) :
    Ends post (rescue body handler) := by
  intro value rescued
  cases outcome : body.2 with
  | ok result => simp only [rescue_snd, outcome, Except.ok.injEq] at rescued; exact rescued ▸ returned result outcome
  | error e => simp only [rescue_snd, outcome, Except.ok.injEq] at rescued; exact rescued ▸ handled e

end Statements

end AkidbEmbedding.Python
