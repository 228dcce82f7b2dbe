namespace FaultInjection.Decimal

def digit? (c : Char) : Option Nat :=
  if '0' ≤ c ∧ c ≤ '9' then some (c.toNat - 48) else none

def number? : List Char → Option Nat
  | [] => none
  | cs => cs.foldl (fun n c => do pure (10 * (← n) + (← digit? c))) (some 0)

def unsigned? (bound : Nat) (s : List Char) : Option Nat :=
  let digits := match s with
    | '+' :: r => r
    | s => s
  (number? digits).filter (· < bound)

def toFloat (digits : Nat) (exponent : Int) : Float :=
  let size := (Nat.toDigits 10 digits).length + exponent
  if digits = 0 ∨ size < -400 then 0.0
  else if 400 < size then 1.0 / 0.0
  else Float.ofScientific digits (exponent < 0) exponent.natAbs

def wholeFloat (n : Int) : Float :=
  if n < 0 then -toFloat n.natAbs 0 else toFloat n.natAbs 0

def takeDigits (s : List Char) : List Char × List Char :=
  s.span fun c => (digit? c).isSome

def exponent? : List Char → Option Int
  | '-' :: ds => (number? ds).map fun n => -(n : Int)
  | '+' :: ds => (number? ds).map fun n => (n : Int)
  | ds => (number? ds).map fun n => (n : Int)

private def magnitude? (s : List Char) : Option Float :=
  let (whole, rest) := takeDigits s
  let (fraction, rest) := match rest with
    | '.' :: r => takeDigits r
    | r => ([], r)
  match number? (whole ++ fraction), rest with
  | none, _ => none
  | some n, [] => some (toFloat n (-fraction.length))
  | some n, c :: r =>
    if c = 'e' ∨ c = 'E' then (exponent? r).map fun e => toFloat n (e - fraction.length) else none

private def unsignedFloat? (s : List Char) : Option Float :=
  match s.map Char.toLower with
  | ['i', 'n', 'f'] | ['i', 'n', 'f', 'i', 'n', 'i', 't', 'y'] => some (1.0 / 0.0)
  | ['n', 'a', 'n'] => some (0.0 / 0.0)
  | _ => magnitude? s

def float? : List Char → Option Float
  | '-' :: s => (unsignedFloat? s).map (-·)
  | '+' :: s => unsignedFloat? s
  | s => unsignedFloat? s

theorem number?_concat {c : Char} (h : digit? c = none) (ds : List Char) :
    number? (ds ++ [c]) = none := by
  cases ds with
  | nil => simp [number?, h]
  | cons d ds => simp [number?, List.foldl_append, h]

private theorem spanLoop_cons (p : Char → Bool) (d : Char) (s ds : List Char) :
    List.span.loop p (d :: s) ds =
      bif p d then List.span.loop p s (d :: ds) else (ds.reverse, d :: s) :=
  rfl

theorem takeDigits_concat {c : Char} (h : digit? c = none) (s : List Char) :
    takeDigits (s ++ [c]) = ((takeDigits s).1, (takeDigits s).2 ++ [c]) := by
  let p : Char → Bool := fun c => (digit? c).isSome
  suffices hloop : ∀ ds, List.span.loop p (s ++ [c]) ds =
      ((List.span.loop p s ds).1, (List.span.loop p s ds).2 ++ [c]) from hloop []
  induction s with
  | nil =>
    intro ds
    have hc : p c = false := congrArg Option.isSome h
    rw [List.nil_append, spanLoop_cons, hc]
    rfl
  | cons d s ih =>
    intro ds
    rw [List.cons_append, spanLoop_cons, spanLoop_cons]
    cases p d with
    | true => exact ih (d :: ds)
    | false => rfl

theorem exponent?_concat {c : Char} (h : digit? c = none) (hm : c ≠ '-') (hp : c ≠ '+')
    (s : List Char) : exponent? (s ++ [c]) = none := by
  cases s with
  | nil => simp [exponent?, hm, hp, number?, h]
  | cons d s =>
    have hs := number?_concat h s
    have hds := number?_concat h (d :: s)
    rw [List.cons_append] at hds ⊢
    unfold exponent?
    split
    · next he => rw [← (List.cons.inj he).2, hs]; rfl
    · next he => rw [← (List.cons.inj he).2, hs]; rfl
    · rw [hds]; rfl

private theorem magnitude?_blank (s : List Char) : magnitude? (s ++ [' ']) = none := by
  have hd : digit? ' ' = none := by decide
  -- The blank is never read as a digit, so it ends what the digits leave.
  obtain ⟨fraction, rest, hrest⟩ : ∃ fraction rest, (match (takeDigits s).2 ++ [' '] with
      | '.' :: r => takeDigits r
      | r => ([], r)) = (fraction, rest ++ [' ']) := by
    cases (takeDigits s).2 with
    | nil => exact ⟨[], [], rfl⟩
    | cons c r =>
      rw [List.cons_append]
      split
      · next he => exact ⟨_, _, (List.cons.inj he).2 ▸ takeDigits_concat hd r⟩
      · exact ⟨[], c :: r, rfl⟩
  unfold magnitude?
  simp only [takeDigits_concat hd, hrest]
  cases rest with
  | nil => cases number? ((takeDigits s).1 ++ fraction) <;> rfl
  | cons c r =>
    have he := exponent?_concat hd (by decide) (by decide) r
    cases number? ((takeDigits s).1 ++ fraction) with
    | none => rfl
    | some n => simp [he]

private theorem unsignedFloat?_blank (s : List Char) : unsignedFloat? (s ++ [' ']) = none := by
  have hlast : ((s ++ [' ']).map Char.toLower).getLast? = some ' ' := by simp
  unfold unsignedFloat?
  split
  · next h => simp [h] at hlast
  · next h => simp [h] at hlast
  · next h => simp [h] at hlast
  · exact magnitude?_blank s

theorem float?_blank (s : List Char) : float? (s ++ [' ']) = none := by
  cases s with
  | nil => decide
  | cons c s =>
    have hs := unsignedFloat?_blank s
    have hcs := unsignedFloat?_blank (c :: s)
    rw [List.cons_append] at hcs ⊢
    unfold float?
    split
    · next he => rw [← (List.cons.inj he).2, hs]; rfl
    · next he => rw [← (List.cons.inj he).2, hs]
    · exact hcs

end FaultInjection.Decimal
