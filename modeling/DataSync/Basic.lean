/-!
# Octets and state-keeping operations

`Bytes` is the raw data that items, messages and files consist of, with its reading as text and its
big-endian numbers.  `Action` is the shape of every operation in this library that works on a state
and may fail: the state reached before a failure is kept, because stores, pipes and peers remember
what was already done to them.
-/

namespace DataSync

/-- A finite sequence of octets. -/
abbrev Bytes := List UInt8

namespace Bytes

/-- The octets of a text in UTF-8. -/
def ofText (text : String) : Bytes :=
  text.toUTF8.data.toList

/-- The text with exactly these octets, if they are valid UTF-8. -/
def text? (bytes : Bytes) : Option String :=
  String.fromUTF8? ⟨bytes.toArray⟩

/-- The two octets of a number below `2 ^ 16`, most significant first. -/
def ofWord (n : Nat) : Bytes :=
  [UInt8.ofNat (n / 256), UInt8.ofNat n]

/-- The four octets of a number below `2 ^ 32`, most significant first. -/
def ofLong (n : Nat) : Bytes :=
  [UInt8.ofNat (n / 16777216), UInt8.ofNat (n / 65536), UInt8.ofNat (n / 256), UInt8.ofNat n]

/-- The number that octets denote, most significant first. -/
def toNat (bytes : Bytes) : Nat :=
  bytes.foldl (fun n b => n * 256 + b.toNat) 0

/-- The octets of a text are read as that text. -/
@[simp] theorem text?_ofText (text : String) : text? (ofText text) = some text := by
  have octets : (⟨(ofText text).toArray⟩ : ByteArray) = text.toByteArray := by
    simp [ofText]
  rw [text?, octets, String.fromUTF8?, dif_pos text.isValidUTF8]
  rfl

theorem text?_eq_some_iff {bytes : Bytes} {text : String} :
    text? bytes = some text ↔ bytes = ofText text := by
  refine ⟨fun read => ?_, fun same => same ▸ text?_ofText text⟩
  rw [text?, String.fromUTF8?] at read
  split at read
  · cases read
    simp [ofText, String.fromUTF8]
  · cases read

theorem ofText_ofList (chars : List Char) :
    ofText (String.ofList chars) = chars.flatMap String.utf8EncodeChar := by
  simp [ofText, String.toUTF8_eq_toByteArray, String.toByteArray_ofList, List.utf8Encode]

@[simp] theorem length_ofText (text : String) : (ofText text).length = text.utf8ByteSize := by
  simp [ofText]

theorem word_ofWord {n : Nat} (small : n < 65536) :
    (UInt8.ofNat (n / 256)).toNat * 256 + (UInt8.ofNat n).toNat = n := by
  simp only [UInt8.toNat_ofNat']
  omega

theorem toNat_ofLong {n : Nat} (small : n < 4294967296) : toNat (ofLong n) = n := by
  simp only [toNat, ofLong, List.foldl_cons, List.foldl_nil, UInt8.toNat_ofNat']
  omega

end Bytes

/-- A mapped result is a success if the result was one. -/
theorem map_eq_ok_iff {ε α β : Type} {f : α → β} {result : Except ε α} {b : β} :
    result.map f = .ok b ↔ ∃ a, result = .ok a ∧ f a = b := by
  cases result <;> simp [Except.map]

/-- Composed results are a success if both were. -/
theorem bind_eq_ok_iff {ε α β : Type} {result : Except ε α} {next : α → Except ε β} {b : β} :
    result >>= next = .ok b ↔ ∃ a, result = .ok a ∧ next a = .ok b := by
  cases result <;> simp [bind, Except.bind]

/-- An operation on a state `σ` that gives an `α` or fails with an `ε`.  Whatever it did to the
state before failing stays done. -/
abbrev Action (σ ε α : Type) := ExceptT ε (StateM σ) α

namespace Action

variable {σ τ ε ε' α β : Type}

/-- The operation given by its function from states to results. -/
def of (f : σ → Except ε α × σ) : Action σ ε α :=
  fun s => f s

/-- The result of an operation and the state after it. -/
def on (action : Action σ ε α) (s : σ) : Except ε α × σ :=
  action s

/-- The state after an operation. -/
def stateAfter (action : Action σ ε α) (s : σ) : σ :=
  (action.on s).2

/-- The operation that gives a part of the state. -/
def view (f : σ → α) : Action σ ε α :=
  fun s => (.ok (f s), s)

/-- The operation that changes the state and cannot fail. -/
def alter (f : σ → σ) : Action σ ε Unit :=
  fun s => (.ok (), f s)

/-- The operation with every error replaced. -/
def mapError (f : ε → ε') (action : Action σ ε α) : Action σ ε' α :=
  fun s => match action s with
    | (.ok a, s') => (.ok a, s')
    | (.error e, s') => (.error (f e), s')

/-- The operation that cannot fail but gives the result of another one. -/
def attempt (action : Action σ ε α) : Action σ ε' (Except ε α) :=
  fun s => match action s with
    | (r, s') => (.ok r, s')

/-- An operation on one part of a state, the rest of which stays as it is. -/
def within (get : σ → τ) (set : τ → σ → σ) (action : Action τ ε α) : Action σ ε α :=
  fun s => match action (get s) with
    | (r, t) => (r, set t s)

/-! ## Results of composed operations -/

@[simp] theorem on_of (f : σ → Except ε α × σ) (s : σ) : (Action.of f).on s = f s := rfl

@[simp] theorem on_pure (a : α) (s : σ) : (pure a : Action σ ε α).on s = (.ok a, s) := rfl

@[simp] theorem on_get (s : σ) : (get : Action σ ε σ).on s = (.ok s, s) := rfl

@[simp] theorem on_modify (f : σ → σ) (s : σ) :
    (modify f : Action σ ε PUnit).on s = (.ok (), f s) := rfl

@[simp] theorem on_view (f : σ → α) (s : σ) :
    (view f : Action σ ε α).on s = (.ok (f s), s) := rfl

@[simp] theorem on_throw (e : ε) (s : σ) : (throw e : Action σ ε α).on s = (.error e, s) := rfl

theorem on_bind (action : Action σ ε α) (next : α → Action σ ε β) (s : σ) :
    (action >>= next).on s = match action.on s with
      | (.ok a, s') => (next a).on s'
      | (.error e, s') => (.error e, s') := by
  rcases result : action s with ⟨_ | _, _⟩ <;>
    simp [Action.on, bind, ExceptT.bind, ExceptT.mk, StateT.bind, result] <;> rfl

/-- A composed operation succeeds if its parts do, one after the other. -/
theorem on_bind_eq_ok {action : Action σ ε α} {next : α → Action σ ε β} {s after : σ} {b : β} :
    (action >>= next).on s = (.ok b, after) ↔
      ∃ a between, action.on s = (.ok a, between) ∧ (next a).on between = (.ok b, after) := by
  rw [on_bind]
  rcases action.on s with ⟨_ | a, between⟩
  · simp
  · constructor
    · exact fun result => ⟨a, between, rfl, result⟩
    · rintro ⟨_, _, ⟨⟩, result⟩
      exact result

theorem on_map (f : α → β) (action : Action σ ε α) (s : σ) :
    (f <$> action).on s = ((action.on s).1.map f, (action.on s).2) := by
  rcases result : action s with ⟨_ | _, _⟩ <;>
    simp [Action.on, Functor.map, ExceptT.map, ExceptT.mk, StateT.bind, bind, result] <;> rfl

@[simp] theorem stateAfter_map (f : α → β) (action : Action σ ε α) (s : σ) :
    (f <$> action).stateAfter s = action.stateAfter s := by
  unfold stateAfter
  rw [on_map]

theorem on_mapError (f : ε → ε') (action : Action σ ε α) (s : σ) :
    (action.mapError f).on s = ((action.on s).1.mapError f, (action.on s).2) := by
  unfold Action.on Action.mapError
  rcases action s with ⟨_ | _, _⟩ <;> rfl

/-- Replacing errors does not make an operation succeed. -/
theorem on_mapError_eq_ok {f : ε → ε'} {action : Action σ ε α} {s after : σ} {a : α} :
    (action.mapError f).on s = (.ok a, after) ↔ action.on s = (.ok a, after) := by
  unfold Action.on Action.mapError
  rcases action s with ⟨_ | _, _⟩ <;> simp

theorem on_attempt (action : Action σ ε α) (s : σ) :
    (action.attempt : Action σ ε' _).on s = (.ok (action.on s).1, (action.on s).2) := rfl

theorem on_within (get : σ → τ) (set : τ → σ → σ) (action : Action τ ε α) (s : σ) :
    (action.within get set).on s = ((action.on (get s)).1, set (action.on (get s)).2 s) := rfl

end Action

end DataSync
