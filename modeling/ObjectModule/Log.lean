import ObjectModule.Error
import ObjectModule.ImageStream.Skipped
import ObjectModule.Text.Quoted

/-! What is worth telling while a module is loaded and read.

An `Event` says what happened; its level, topic and wording follow from it. A
`Logged` computation is a result together with the events on the way to it. The
result of a composition depends on the results of its parts alone
(`Logged.result_bind`), so events can be left out of any argument about results.
`Logged.fold` goes through a list step by step (`Logged.fold_cons`). -/
namespace ObjectModule

/-- How urgent an event is. -/
inductive Level where
  | debug
  | info
  | warning
  | error
deriving DecidableEq, Repr

/-- A level as a number that grows with urgency. -/
def Level.rank : Level → Nat
  | debug => 0
  | info => 1
  | warning => 2
  | error => 3

/-- What an event is about. -/
inductive Topic where
  | records
  | modules
  | segments
  | images
  | configuration
deriving DecidableEq, Repr

/-- Something that happened while a module was loaded or read. -/
inductive Event where
  | record (type : RecordType) (offset size : Nat)
  | passedOver (type : RecordType) (offset : Nat)
  | injected (segment : String)
  | loaded (name : String) (segments names : Nat)
  | placed (segment : String) (address : Int) (boundary : Nat) (length : Int)
  | skipped (fragment : SkippedFragment)
  | imageFailed (error : ReconstructionError)
  | configMissing (path : String)
  | unknownKey (key : Text.Codes)
deriving DecidableEq, Repr

namespace Event

/-- How urgent the event is. -/
def level : Event → Level
  | record .. | passedOver .. | placed .. | configMissing .. => .debug
  | injected .. | loaded .. => .info
  | skipped .. | unknownKey .. => .warning
  | imageFailed .. => .error

/-- What the event is about. -/
def topic : Event → Topic
  | record .. => .records
  | passedOver .. | injected .. | loaded .. => .modules
  | placed .. => .segments
  | skipped .. | imageFailed .. => .images
  | configMissing .. | unknownKey .. => .configuration

/-- The wording of the event. -/
def message : Event → String
  | record type offset size => s!"record {type.name} at {Text.hex offset}, {size} body bytes"
  | passedOver type offset => s!"skipping {type.name} record at {Text.hex offset}"
  | injected segment => s!"injected default segment {segment}"
  | loaded name segments names =>
    s!"loaded module {Text.quoted name}: {segments} segments, {names} names"
  | placed segment address boundary length =>
    s!"placed {segment} at {Text.hex address} (align {boundary}, length {Text.hex length})"
  | skipped fragment => fragment.message
  | imageFailed error => error.message
  | configMissing path => s!"config file {path} not found, using defaults"
  | unknownKey key => s!"ignoring unknown config key {Text.quotedCodes key}"

/-- Whether the event is at least as urgent as the given level. -/
def reaches (threshold : Level) (e : Event) : Bool := threshold.rank ≤ e.level.rank

end Event

/-- A result and the events on the way to it. -/
structure Logged (ε α : Type) where
  result : Except ε α
  log : List Event

namespace Logged
variable {ε α β : Type}

/-- A computation that only reports an event. -/
def note (e : Event) : Logged ε Unit := ⟨.ok (), [e]⟩

/-- A computation that only reports events. -/
def notes (events : List Event) : Logged ε Unit := ⟨.ok (), events⟩

/-- A result that a fault in the records may have spoilt, without events. -/
def ofFormat (result : Except FormatError α) : Logged Error α :=
  ⟨result.mapError .format, []⟩

instance : Monad (Logged ε) where
  pure a := ⟨.ok a, []⟩
  bind x f :=
    match x.result with
    | .ok a =>
      let next := f a
      ⟨next.result, x.log ++ next.log⟩
    | .error e => ⟨.error e, x.log⟩

instance : MonadExcept ε (Logged ε) where
  throw e := ⟨.error e, []⟩
  tryCatch x handle :=
    match x.result with
    | .ok _ => x
    | .error e =>
      let next := handle e
      ⟨next.result, x.log ++ next.log⟩

/-- Takes a step for every item of a list, behind events already reported (latest
first). -/
def foldAfter (step : β → α → Logged ε β) : List Event → β → List α → Logged ε β
  | done, b, [] => ⟨.ok b, done.reverse⟩
  | done, b, a :: rest =>
    match step b a with
    | ⟨.ok b, log⟩ => foldAfter step (log.reverseAux done) b rest
    | ⟨.error e, log⟩ => ⟨.error e, (log.reverseAux done).reverse⟩

/-- Takes a step for every item of a list, in order. Lists may be long, so the events
are gathered on the way. -/
def fold (step : β → α → Logged ε β) (b : β) (items : List α) : Logged ε β :=
  foldAfter step [] b items

/-! ### Results -/

@[simp] theorem result_pure (a : α) : (pure a : Logged ε α).result = .ok a := rfl

@[simp] theorem result_note (e : Event) : (note e : Logged ε Unit).result = .ok () := rfl

@[simp] theorem result_throw (e : ε) : (throw e : Logged ε α).result = .error e := rfl

@[simp] theorem result_ofExcept (r : Except ε α) : (ofExcept r : Logged ε α).result = r := by
  cases r <;> rfl

@[simp] theorem result_ofFormat (r : Except FormatError α) :
    (ofFormat r).result = r.mapError .format := rfl

/-- The result of a composition is the composition of the results. -/
@[simp] theorem result_bind (x : Logged ε α) (f : α → Logged ε β) :
    (x >>= f).result = (x.result >>= fun a => (f a).result) := by
  obtain ⟨r, log⟩ := x
  cases r <;> rfl

instance : LawfulMonad (Logged ε) :=
  .mk' _ (fun ⟨result, _⟩ => by cases result <;> simp [Functor.map]) (fun _ _ => rfl)
    fun ⟨result, _⟩ f _ => by
      cases result with
      | error e => rfl
      | ok a =>
        simp only [bind]
        rcases f a with ⟨_ | b, _⟩ <;> simp

@[simp] theorem result_map (f : α → β) (x : Logged ε α) : (f <$> x).result = f <$> x.result := by
  obtain ⟨r, log⟩ := x
  cases r <;> rfl

/-! ### Folds -/

theorem foldAfter_eq (step : β → α → Logged ε β) (done : List Event) (b : β) (items : List α) :
    foldAfter step done b items =
      ⟨(fold step b items).result, done.reverse ++ (fold step b items).log⟩ := by
  unfold fold
  induction items generalizing done b with
  | nil => simp [foldAfter]
  | cons a rest ih =>
    simp only [foldAfter]
    rcases step b a with ⟨_ | b, log⟩
    · simp [List.reverseAux_eq]
    · dsimp only
      rw [ih (log.reverseAux done), ih (log.reverseAux [])]
      simp [List.reverseAux_eq]

@[simp] theorem fold_nil (step : β → α → Logged ε β) (b : β) : fold step b [] = pure b := rfl

/-- A fold is its first step and then the fold of the rest. -/
@[simp] theorem fold_cons (step : β → α → Logged ε β) (b : β) (a : α) (rest : List α) :
    fold step b (a :: rest) = step b a >>= fun b => fold step b rest := by
  show foldAfter step [] b (a :: rest) = bind (step b a) _
  rw [foldAfter]
  rcases step b a with ⟨_ | b, log⟩
  · simp [List.reverseAux_eq, bind]
  · simp only [foldAfter_eq, List.reverseAux_eq, List.append_nil, List.reverse_reverse]
    rfl

/-- The steps for one list go on where those for the list before it ended. -/
theorem fold_append (step : β → α → Logged ε β) (b : β) (front back : List α) :
    fold step b (front ++ back) = fold step b front >>= fun b => fold step b back := by
  induction front generalizing b with
  | nil => rw [List.nil_append, fold_nil, pure_bind]
  | cons a rest ih => simp only [List.cons_append, fold_cons, bind_assoc, ih]

end Logged
end ObjectModule
