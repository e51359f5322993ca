import Mathlib.Data.List.Forall2

/-!
# Go runtime vocabulary

The parts of Go the provider's code leans on: error values with their `errdefs` class, byte
strings, the two's-complement `int32` and `int64` conversions, and the `for ... range` loop that
appends the translation of each element to a slice and returns at the first error.
-/

namespace AzureAci

/-- Go values that are results are compared in the model's tests. -/
instance instDecidableEqExceptGo {ε α : Type} [DecidableEq ε] [DecidableEq α] :
    DecidableEq (Except ε α)
  | .error a, .error b =>
      if same : a = b then isTrue (same ▸ rfl)
      else isFalse fun equal => same (Except.error.inj equal)
  | .ok a, .ok b =>
      if same : a = b then isTrue (same ▸ rfl)
      else isFalse fun equal => same (Except.ok.inj equal)
  | .error _, .ok _ => isFalse fun equal => Except.noConfusion equal
  | .ok _, .error _ => isFalse fun equal => Except.noConfusion equal

/-- The class an error value was built with. -/
inductive ErrorKind where
  /-- `errdefs.InvalidInput`. -/
  | invalidInput
  /-- `errdefs.NotFound`. -/
  | notFound
  /-- `errors.New`, `fmt.Errorf` and the errors of Go libraries. -/
  | plain
  deriving DecidableEq, Repr

/-- A Go `error`: its class and the text its `Error()` method returns. -/
structure GoError where
  /-- The `errdefs` class. -/
  kind : ErrorKind
  /-- The formatted message. -/
  message : String
  deriving DecidableEq, Repr

/-- `errdefs.InvalidInput(msg)`. -/
def invalidInput (message : String) : GoError := ⟨.invalidInput, message⟩

/-- `errors.New(msg)`, and `fmt.Errorf` once its verbs are formatted. -/
def newError (message : String) : GoError := ⟨.plain, message⟩

/-- A Go `[]byte`, and a Go `string` read as the bytes it holds. -/
abbrev Bytes := List UInt8

/-- A Go map with string keys, as the entries one `range` over it visits, in that order. Keys
are distinct. -/
structure GoMap (α : Type) where
  /-- Key and value of each entry. -/
  entries : List (String × α)
  /-- A map holds each key once. -/
  nodup : (entries.map Prod.fst).Nodup

/-- `m[key] = value` on a Go map held as an association list: the key's entry is replaced. -/
def mapInsert {α : Type} (m : List (String × α)) (key : String) (value : α) : List (String × α) :=
  (key, value) :: m.filter (fun entry => entry.1 ≠ key)

@[simp] theorem lookup_mapInsert {α : Type} (m : List (String × α)) (key name : String)
    (value : α) :
    (mapInsert m key value).lookup name = if name = key then some value else m.lookup name := by
  by_cases same : name = key
  · simp [mapInsert, same]
  · simp only [mapInsert, List.lookup_cons, beq_eq_false_iff_ne.mpr same, same, if_false]
    induction m with
    | nil => rfl
    | cons entry m induction =>
        obtain ⟨k, v⟩ := entry
        by_cases named : k = key
        · subst named
          rw [List.filter_cons_of_neg (by simp), induction, List.lookup_cons,
            beq_eq_false_iff_ne.mpr same]
        · rw [List.filter_cons_of_pos (by simpa using named), List.lookup_cons, List.lookup_cons,
            induction]

/-- `strings.EqualFold` on ASCII text: equality once `A`..`Z` are mapped to `a`..`z`. Go folds
all of Unicode; the two agree on ASCII strings, the only ones the model evaluates it on. -/
def asciiEqualFold (s t : String) : Bool := s.data.map Char.toLower == t.data.map Char.toLower

/-- `strings.ToLower` on ASCII text, for the fixed inputs the model evaluates it on. -/
def asciiToLower (s : String) : String := ⟨s.data.map Char.toLower⟩

/-- `int32(x)`: the conversion keeps the low 32 bits of `x`, read in two's complement. -/
def toInt32 (x : Int) : Int := x.bmod 4294967296

theorem toInt32_of_lt {x : Int} (lower : -2147483648 ≤ x) (upper : x < 2147483648) :
    toInt32 x = x := by
  rw [toInt32, Int.bmod_def]
  split <;> omega

/-- `int64(x)`, and the result of `int64` arithmetic: the low 64 bits of `x`, in two's
complement. -/
def toInt64 (x : Int) : Int := x.bmod 18446744073709551616

theorem toInt64_of_lt {x : Int} (lower : -9223372036854775808 ≤ x)
    (upper : x < 9223372036854775808) : toInt64 x = x := by
  rw [toInt64, Int.bmod_def]
  split <;> omega

section Bind

variable {ε α β : Type}

@[simp] theorem ok_bind (a : α) (f : α → Except ε β) : (.ok a >>= f) = f a := rfl

@[simp] theorem error_bind (e : ε) (f : α → Except ε β) :
    (.error e >>= f : Except ε β) = .error e := rfl

theorem bind_eq_ok {x : Except ε α} {f : α → Except ε β} {b : β} :
    x >>= f = .ok b ↔ ∃ a, x = .ok a ∧ f a = .ok b := by
  cases x <;> simp

theorem bind_eq_error {x : Except ε α} {f : α → Except ε β} {e : ε} :
    x >>= f = .error e ↔ x = .error e ∨ ∃ a, x = .ok a ∧ f a = .error e := by
  cases x <;> simp

theorem map_eq_ok {x : Except ε α} {f : α → β} {b : β} :
    f <$> x = .ok b ↔ ∃ a, x = .ok a ∧ f a = b := by
  cases x <;> simp [Functor.map, Except.map]

end Bind

/-- `if cond { return ..., err }`. -/
def failIf (cond : Prop) [Decidable cond] (err : GoError) : Except GoError Unit :=
  if cond then .error err else .ok ()

@[simp] theorem failIf_eq_ok {cond : Prop} [Decidable cond] {err : GoError} {u : Unit} :
    failIf cond err = .ok u ↔ ¬ cond := by
  unfold failIf; split <;> simp_all

@[simp] theorem failIf_eq_error {cond : Prop} [Decidable cond] {err e : GoError} :
    failIf cond err = .error e ↔ cond ∧ err = e := by
  unfold failIf; split <;> simp_all

section PlainErrors

variable {α β : Type}

end PlainErrors

variable {α β : Type}

/-- The loop `for _, x := range xs { y, err := f(x); if err != nil { return nil, err };
acc = append(acc, y) }`. -/
def appendEach (f : α → Except GoError β) : List β → List α → Except GoError (List β)
  | acc, [] => .ok acc
  | acc, x :: xs => do
      let y ← f x
      appendEach f (acc ++ [y]) xs

/-- The loop succeeds exactly when every element translates, and then it appends the
translations in order. -/
theorem appendEach_eq_ok (f : α → Except GoError β) (acc : List β) (xs : List α) (ys : List β) :
    appendEach f acc xs = .ok ys ↔
      ∃ zs, List.Forall₂ (fun x y => f x = .ok y) xs zs ∧ ys = acc ++ zs := by
  induction xs generalizing acc with
  | nil => simp [appendEach, eq_comm]
  | cons x xs induction =>
      simp only [appendEach, bind_eq_ok, induction, List.forall₂_cons_left_iff]
      constructor
      · rintro ⟨y, translated, zs, rest, rfl⟩
        exact ⟨y :: zs, ⟨y, zs, translated, rest, rfl⟩, by simp⟩
      · rintro ⟨_, ⟨y, zs, translated, rest, rfl⟩, rfl⟩
        exact ⟨y, translated, zs, rest, by simp⟩

theorem appendEach_succeeds_iff (f : α → Except GoError β) (acc : List β) (xs : List α) :
    (∃ ys, appendEach f acc xs = .ok ys) ↔ ∀ x ∈ xs, ∃ y, f x = .ok y := by
  induction xs generalizing acc with
  | nil => simp [appendEach]
  | cons x xs induction =>
      simp only [appendEach, bind_eq_ok, List.mem_cons, forall_eq_or_imp]
      constructor
      · rintro ⟨ys, y, translated, rest⟩
        exact ⟨⟨y, translated⟩, (induction _).mp ⟨ys, rest⟩⟩
      · rintro ⟨⟨y, translated⟩, others⟩
        obtain ⟨ys, rest⟩ := (induction (acc ++ [y])).mpr others
        exact ⟨ys, y, translated, rest⟩

theorem appendEach_mem {f : α → Except GoError β} {xs : List α} :
    ∀ {acc ys : List β}, appendEach f acc xs = .ok ys →
      ∀ y ∈ ys, y ∈ acc ∨ ∃ x ∈ xs, f x = .ok y := by
  induction xs with
  | nil => intro acc ys run y member; cases run; exact .inl member
  | cons x xs induction =>
      intro acc ys run y member
      obtain ⟨translation, translated, rest⟩ := bind_eq_ok.mp run
      rcases induction rest y member with appended | ⟨other, inXs, made⟩
      · rcases List.mem_append.mp appended with old | new
        · exact .inl old
        · exact .inr ⟨x, List.mem_cons_self _ _, List.mem_singleton.mp new ▸ translated⟩
      · exact .inr ⟨other, List.mem_cons_of_mem _ inXs, made⟩

/-- The loop `for _, x := range xs { acc = append(acc, f(x)) }`. -/
theorem foldl_append_singleton (f : α → β) (xs : List α) (init : List β) :
    xs.foldl (fun acc x => acc ++ [f x]) init = init ++ xs.map f := by
  induction xs generalizing init with
  | nil => simp
  | cons x xs induction => simp [induction]

end AzureAci
