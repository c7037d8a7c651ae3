import ObjectModule.CommandLine.Run
import ObjectModule.CommonMachine
import ObjectModule.Proofs.CommandLine.Lines
import ObjectModule.Proofs.Module.Readings
import ObjectModule.Proofs.PlainConsole.Markup

/-! What a dump shows.

There is no markup in the names of a segment without brackets and backslashes, nor in what a dump
says around its lines. `dump_shows` follows a dump, on any console that is as documented, from its
arguments to what is seen of it: the rows of sixteen bytes have what the stream of the segment
gives, up to the limit, and below them stand the messages of the same reading. -/
namespace ObjectModule

/-! ### The reading -/

namespace Walk
variable {s : Segment} {maxFill length : Int}

/-- Whether what a walk recorded bears the names of a segment. -/
def Names (s : Segment) (w : Walk) : Prop :=
  ∀ r ∈ w.skipped, r.segment = s.displayName ∧ r.className = s.className.getD ""

theorem names_stop (s : Segment) (ending : Ending) : (stop ending).Names s := fun _ hr => nomatch hr

theorem Names.fill [Machine] {onward : Walk} (h : onward.Names s) (start width : Nat)
    (hole : Hole) :
    (fill maxFill start width hole onward).Names s := by
  unfold Walk.fill
  split
  · exact names_stop s _
  · split
    · exact names_stop s _
    · exact h

theorem Names.land [Machine] {onward : Nat → Walk} (h : ∀ after, (onward after).Names s)
    (f : Fragment) (index position : Nat) : (land length f index position onward).Names s := by
  unfold Walk.land
  split
  · exact names_stop s _
  · split
    · exact names_stop s _
    · exact h _

theorem names_along [Machine] (s : Segment) (ahead : List Fragment) (index position : Nat) :
    (along s maxFill length ahead index position).Names s := by
  induction ahead generalizing index position with
  | nil =>
    rw [along]
    split
    · exact names_stop s _
    · exact (names_stop s _).fill _ _ _
  | cons f rest ih =>
    have onward (after : Nat) := ih (index + 1) after
    rw [along]
    split
    · exact names_stop s _
    · split
      · intro r hr
        rcases List.mem_cons.mp hr with rfl | hr
        · exact ⟨rfl, rfl⟩
        · exact onward position r hr
      · split
        · exact Names.land onward f _ _
        · exact (Names.land onward f _ _).fill _ _ _

theorem segment_of_error {w : Walk} {cause : ReconstructionError} (h : w.error s = some cause) :
    cause.segment = s.displayName := by
  unfold error at h
  split at h
  · cases h
    rfl
  all_goals cases h

end Walk

namespace CommandLine
open ImageStream (sessionOf ofSegment)
open Console (shown)

/-- What a dump reads: so many bytes or, if the limit is not above zero, all. -/
def dumpRequest (limit : Int) : Request := if 0 < limit then .read limit else .readAll

/-- The bytes up to a limit. -/
def limited (limit : Int) (bytes : Bytes) : Bytes :=
  if 0 < limit then bytes.take limit.toNat else bytes

section Reading
variable [Machine] {s : Segment} {maxFill limit : Int}

/-- A dump reads the first bytes of all that the stream gives. -/
theorem bytes_dumpRequest (fits : ¬ (s.walk maxFill).Fails)
    (room : (dumpRequest limit).HasRoom) :
    (sessionOf s maxFill [dumpRequest limit]).bytes =
      limited limit (sessionOf s maxFill [.readAll]).bytes := by
  rw [limited]
  split
  · next positive =>
    have hrequest : dumpRequest limit = .read limit := if_pos positive
    rw [hrequest] at room ⊢
    rw [ImageStream.bytes_readAll fits]
    exact ImageStream.bytes_readAtMost fits (Int.le_of_lt positive) room
  · next low =>
    have hrequest : dumpRequest limit = .readAll := if_neg low
    rw [hrequest]

/-- What is recorded in a session bears the names of the segment. -/
theorem names_of_session (fits : ¬ (s.walk maxFill).Fails) (calls : List Request) :
    (∀ r ∈ (sessionOf s maxFill calls).final.skipped,
      r.segment = s.displayName ∧ r.className = s.className.getD "") ∧
    ∀ cause, (sessionOf s maxFill calls).final.error = some cause →
      cause.segment = s.displayName := by
  obtain ⟨_, _, _, hskipped, himage⟩ := ImageStream.session_follows fits calls
  refine ⟨fun r hr => Walk.names_along s s.fragments.toList 0 0 r (hskipped.subset hr),
    fun cause failed => ?_⟩
  have stopped : (sessionOf s maxFill calls).final.isExhausted = true :=
    ImageStream.isExhausted_of_error (by simp [failed])
  rw [(himage stopped).2.2] at failed
  exact Walk.segment_of_error failed

end Reading

/-! ### What is seen around the lines -/

/-- What is seen above the lines of a dump. -/
def dumpHeading [Console] (s : Segment) : String :=
  shown s.displayName ++ s!" @ {Text.hex (s.address.getD 0)}\n"

/-- What is seen below the lines of a dump: a message for every fragment skipped, in order, and
one for the error. -/
def dumpMessages [Console] (st : ImageStream) : List String :=
  st.skipped.map (fun f => shown f.message) ++ st.error.toList.map fun e => shown e.message

section Seeing
variable {text : String} {s : Segment} {st : ImageStream}

theorem isLegible_hex (n : Int) : ∀ c ∈ (Text.hex n).toList, IsLegible c := by
  have hmark (front : String) (hfront : ∀ c ∈ front.toList, IsLegible c) :
      ∀ c ∈ (front ++ Text.hexDigits n.natAbs).toList, IsLegible c := by
    rw [String.toList_append, List.forall_mem_append]
    exact ⟨hfront, fun c hc => .inl (Text.isMark_hexDigits _ c hc)⟩
  have sign : IsLegible '-' := .inl (.inl rfl)
  have zero : IsLegible '0' := .inl (.inr ⟨0, by decide, rfl⟩)
  have mark : IsLegible 'x' := .inr (by decide)
  rw [Text.hex]
  split
  · exact hmark "-0x" (by simp [sign, zero, mark])
  · exact hmark "0x" (by simp [zero, mark])

theorem isBare_skipped {f : SkippedFragment} (hname : IsBare f.segment.toList)
    (hclass : IsBare f.className.toList) : IsBare f.message.toList := by
  have hindex : IsBare (toString f.index).toList := by
    show IsBare (Nat.repr f.index).toList
    rw [Nat.toList_repr]
    intro c hc
    obtain ⟨d, hd, rfl⟩ := Text.exists_of_mem_toDigits (by decide) hc
    have all : ∀ d : Fin 10, d.val.digitChar ≠ '[' ∧ d.val.digitChar ≠ '\\' := by decide
    exact all ⟨d, hd⟩
  have hhex := isBare_of_plain (isPlain_of_legible (isLegible_hex f.offset))
  have hnames : IsBare ("Segment " ++ f.segment ++ ":" ++ f.className).toList :=
    isBare_append (isBare_append (isBare_append (by decide) hname) (by decide)) hclass
  have hplace :
      IsBare ("(" ++ Text.hex f.offset ++ ") in data block " ++ toString f.index).toList :=
    isBare_append (isBare_append (isBare_append (by decide) hhex) (by decide)) hindex
  exact isBare_append (isBare_append hnames (by decide)) (isBare_append hplace (by decide))

theorem isBare_error {e : ReconstructionError} (hname : IsBare e.segment.toList) :
    IsBare e.message.toList := by
  unfold ReconstructionError.message
  split
  · exact isBare_append (by decide) hname
  · exact isBare_append (by decide) hname

/-- What is seen of an output is seen item by item. -/
theorem plain?_output [Console] {printed shown : List Printed} (status : Nat)
    (h : List.Forall₂ (fun marked item => marked.plain? = some item) printed shown) :
    Output.plain? ⟨printed, status⟩ = some ⟨shown, status⟩ := by
  have hitems : printed.mapM Printed.plain? = some shown := by
    induction h with
    | nil => rfl
    | cons hitem _ ih =>
      rw [List.mapM_cons, hitem, ih]
      rfl
  rw [Output.plain?]
  show (printed.mapM Printed.plain?).bind _ = _
  rw [hitems]
  rfl

variable [Console]

theorem plain?_heading (console : Console.IsDocumented) (hname : IsBare s.displayName.toList) :
    Console.plain? (styled "bold" (Console.escaped s.displayName) ++
      s!" @ {Text.hex (s.address.getD 0)}\n") = some (dumpHeading s) := by
  have htail : ∀ c ∈ s!" @ {Text.hex (s.address.getD 0)}\n".toList, IsLegible c := by
    have hfront : ∀ c ∈ " @ ".toList, IsLegible c := isLegible_of_subset (by decide)
    have hend : ∀ c ∈ "\n".toList, IsLegible c := isLegible_of_subset (by decide)
    show ∀ c ∈ (" @ " ++ Text.hex (s.address.getD 0) ++ "\n").toList, IsLegible c
    rw [String.toList_append, String.toList_append, List.forall_mem_append,
      List.forall_mem_append]
    exact ⟨⟨hfront, isLegible_hex _⟩, hend⟩
  rw [console.escaped_bare _ hname]
  exact console.plain?_styled_append (by decide) hname _ (isPlain_of_legible htail)

/-- What is seen of a dump: the heading, the lines with the bytes in rows of sixteen, and the
messages. -/
theorem exists_plain?_dumpOutput (console : Console.IsDocumented) (bytes : Packed)
    (hname : IsBare s.displayName.toList) (hclass : IsBare (s.className.getD "").toList)
    (hskipped : ∀ f ∈ st.skipped, f.segment = s.displayName ∧ f.className = s.className.getD "")
    (herror : ∀ e, st.error = some e → e.segment = s.displayName) :
    ∃ lines rows, (dumpOutput s bytes st).plain? =
        some ⟨(dumpHeading s :: lines ++ dumpMessages st).map .text,
          if st.error.isSome then 1 else 0⟩ ∧
      List.Forall₂ (fun line row => readLine? line = some row) lines rows ∧
      IsDump (s.address.getD 0) bytes.toBytes rows := by
  obtain ⟨lines, rows, hlines, hread, hdump⟩ :=
    exists_plain?_dumpLines console (s.address.getD 0) bytes
  have htext {marked seen : String} (h : Console.plain? marked = some seen) :
      Printed.plain? (.text marked) = some (.text seen) := by
    rw [Printed.plain?, h]
    rfl
  have hmessages : List.Forall₂ (fun marked item => Printed.plain? marked = some item)
      (st.skipped.map (fun f => .text (styled "yellow" f.message)))
      (st.skipped.map fun f => .text (shown f.message)) := by
    rw [List.forall₂_map_left_iff, List.forall₂_map_right_iff, List.forall₂_same]
    intro f hf
    obtain ⟨hsegment, hclassName⟩ := hskipped f hf
    exact htext (console.plain?_styled (by decide)
      (isBare_skipped (hsegment ▸ hname) (hclassName ▸ hclass)))
  have herrors : List.Forall₂ (fun marked item => Printed.plain? marked = some item)
      (st.error.toList.map fun e => .text (styled "red" e.message))
      (st.error.toList.map fun e => .text (shown e.message)) := by
    rw [List.forall₂_map_left_iff, List.forall₂_map_right_iff, List.forall₂_same]
    intro e he
    exact htext (console.plain?_styled (by decide)
      (isBare_error (herror e (Option.mem_toList.mp he) ▸ hname)))
  refine ⟨lines, rows, plain?_output _ ?_, hread, hdump⟩
  rw [List.cons_append, List.map_cons, List.map_append, dumpMessages, List.map_append, List.map_map,
    List.map_map]
  refine .cons (htext (plain?_heading console hname)) ?_
  rw [List.append_assoc]
  apply List.rel_append
  · rw [List.forall₂_map_left_iff, List.forall₂_map_right_iff]
    exact hlines.imp fun _ _ => htext
  · exact List.rel_append hmessages herrors

end Seeing

/-! ### From the arguments on -/

/-- What arguments ask for: the path of a module, a segment of it, and how many bytes of that. -/
def asked? [Console] (arguments : List String) : Option (String × String × Int) := do
  let given ← Console.parse? dumpForms true arguments
  (answerQuestions given).result.toOption
  let limit ← (decimalValue given .limit).result.toOption
  match given.rest with
  | [path, target] => some (path, target, limit.getD usualLimit)
  | _ => none

section Running
variable {files : Files} {settings : Settings} {arguments : List String} {path target : String}
  {limit maxFill : Int} {m : Module} {s : Segment}

theorem mem_of_findSegment? (h : findSegment? m target = some s) : s ∈ m.segments := by
  unfold findSegment? at h
  split at h
  · next number found named =>
    cases h
    obtain ⟨p, hp, same⟩ := Option.map_eq_some_iff.mp named
    cases same
    exact (List.mem_zipIdx (List.mem_of_find?_eq_some hp)).2.2 ▸ List.getElem_mem _
  · obtain ⟨number, _, h⟩ := Option.bind_eq_some_iff.mp h
    split at h
    · cases h
    · exact List.mem_of_getElem? h

variable [Console]

/-- The options that a module is loaded with allow the gaps that the settings allow. -/
theorem maxFill_optionsFor {c : Contents} {options : Options}
    (h : (optionsFor settings path c).result = .ok options) :
    options.maxFill = (Settings.widestGap? settings.maxFill).getD (-1) := by
  unfold optionsFor at h
  dsimp only at h
  split at h
  · cases h
    rfl
  · simp only [Logged.result_bind, Outcome.bind_eq_ok] at h
    obtain ⟨alignment, _, h⟩ := h
    split at h
    · cases h
      rfl
    · cases h
    · cases h

/-- What a command loads is loaded from the bytes of a file, with the gaps that the settings
allow. -/
theorem load_of_loadModule (h : (loadModule files settings path).result = .ok m) :
    ∃ input, (Module.load input (Path.normal path) m.options).result = .ok m ∧
      m.options.maxFill = (Settings.widestGap? settings.maxFill).getD (-1) := by
  unfold loadModule at h
  split at h
  · cases h
  · cases h
  · cases h
  · next input _ =>
    simp only [Logged.result_bind, Outcome.bind_eq_ok, duringLoad, Outcome.mapError_eq_ok] at h
    obtain ⟨c, hcontents, options, hoptions, hmodule⟩ := h
    have hload : (Module.load input (Path.normal path) options).result = .ok m := by
      rw [Module.load, Logged.result_bind, hcontents]
      exact hmodule
    have hsame : m.options = options := by
      obtain ⟨_, closed, _, _, _, hplaced⟩ := Module.load_eq_ok.mp hload
      obtain ⟨_, _, _, _, _, hm⟩ := Module.place_eq_ok.mp hplaced
      rw [hm]
    rw [hsame]
    exact ⟨input, hload, maxFill_optionsFor hoptions⟩

variable [Machine]

/-- A dump of a segment shows what is read of it. -/
theorem result_dumpSegment {bytes : Packed} {final : ImageStream}
    (hfound : findSegment? m target = some s)
    (hgap : Settings.widestGap? settings.maxFill = some maxFill)
    (hread : (ofSegment s m.options.maxFill).perform s (dumpRequest limit) = .ok bytes final) :
    (dumpSegment settings m target limit).result = .ok (dumpOutput s bytes final) := by
  have hsame : (if 0 < limit then (ofSegment s m.options.maxFill).readAtMost s limit
      else (ofSegment s m.options.maxFill).readAll s) = .ok bytes final := by
    rw [← hread, dumpRequest]
    split <;> rfl
  have number : ¬ (final.error.isSome ∧ (Settings.widestGap? settings.maxFill).isNone) := by
    rw [hgap]
    exact fun h => nomatch h.2
  unfold dumpSegment
  rw [hfound]
  dsimp only
  rw [hsame]
  dsimp only
  rw [if_neg number]
  rfl

/-- A command that is asked for a dump gives what is seen of it. -/
theorem result_run (hasked : asked? arguments = some (path, target, limit))
    (hpath : Path.isPossible path = true)
    (hload : (loadModule files settings path).result = .ok m) :
    (Command.run .dump files settings arguments).result =
      (dumpSegment settings m target limit >>= visible).result := by
  simp only [asked?, Option.bind_eq_bind, Option.bind_eq_some_iff, Outcome.toOption_eq_some]
    at hasked
  obtain ⟨given, hparse, _, hanswer, chosen, hlimit, hasked⟩ := hasked
  have hrest : given.rest = [path, target] ∧ chosen.getD usualLimit = limit := by
    split at hasked
    · next same =>
      cases hasked
      exact ⟨same, rfl⟩
    · cases hasked
  have possible : [path, target].head?.all Path.isPossible = true := hpath
  have hforms : Command.dump.forms = dumpForms := rfl
  unfold Command.run
  rw [hforms, hparse]
  dsimp only
  rw [Logged.result_bind, hanswer]
  show (decimalValue given .limit >>= _).result = _
  rw [Logged.result_bind, hlimit]
  simp only [hrest.1, possible, not_true_eq_false, if_false]
  show (loadModule files settings path >>= _).result = _
  rw [Logged.result_bind, hload, ← hrest.2]
  rfl

/-- **What a dump shows.** Let a console be as documented, and let a machine have room for all that
a module can say. If a module is loaded, a segment is found in it whose names hold no brackets and
no backslashes, the widest gap is set to a number, the bytes asked for can be set aside and repeat
counts of zero hide no more than the limit in any fragment, then a dump shows the first bytes of
all that a stream over the segment gives, in rows of sixteen from the address of the segment on,
and below them a message for every fragment skipped while they were read, and one for the error if
the same reading met one; then, and only then, the status is one. -/
theorem dump_shows (console : Console.IsDocumented) (holds : Machine.HoldsModules)
    (hasked : asked? arguments = some (path, target, limit))
    (hpath : Path.isPossible path = true)
    (hload : (loadModule files settings path).result = .ok m)
    (hfound : findSegment? m target = some s) (hname : IsBare s.displayName.toList)
    (hclass : IsBare (s.className.getD "").toList)
    (hgap : Settings.widestGap? settings.maxFill = some maxFill)
    (hidden : ∀ f ∈ s.fragments, f.HidesNothing) (room : (dumpRequest limit).HasRoom) :
    (sessionOf s maxFill [.readAll]).Returned ∧
    (sessionOf s maxFill [dumpRequest limit]).bytes =
      limited limit (sessionOf s maxFill [.readAll]).bytes ∧
    ∃ lines rows, (Command.run .dump files settings arguments).result = .ok {
        printed := (dumpHeading s :: lines ++
          dumpMessages (sessionOf s maxFill [dumpRequest limit]).final).map .text
        status := if (sessionOf s maxFill [dumpRequest limit]).final.error.isSome then 1 else 0 } ∧
      List.Forall₂ (fun line row => readLine? line = some row) lines rows ∧
      IsDump (s.address.getD 0) (limited limit (sessionOf s maxFill [.readAll]).bytes) rows := by
  obtain ⟨input, hmodule, hmaxFill⟩ := load_of_loadModule hload
  have hs := mem_of_findSegment? hfound
  have fits := (Module.reachesNoFarther_of_load hmodule s hs).fits holds hidden maxFill
  rw [hgap, Option.getD_some] at hmaxFill
  have hbytes := bytes_dumpRequest fits room
  obtain ⟨_, _, _, hall⟩ :=
    ImageStream.exists_session_singleton fits (show Request.readAll.HasRoom from trivial)
  obtain ⟨data, final, hread, hsession⟩ := ImageStream.exists_session_singleton fits room
  obtain ⟨hskipped, herror⟩ := names_of_session fits [dumpRequest limit]
  have hdata : (sessionOf s maxFill [dumpRequest limit]).bytes = data.toBytes := by
    rw [hsession]
    exact List.append_nil _
  rw [hsession] at hskipped herror ⊢
  obtain ⟨lines, rows, hplain, hlines, hdump⟩ :=
    exists_plain?_dumpOutput console data hname hclass hskipped herror
  refine ⟨?_, by rw [← hbytes, hsession], lines, rows, ?_, hlines, ?_⟩
  · rw [hall]
    intro answer hanswer
    rw [List.mem_singleton.mp hanswer]
    rfl
  · rw [← hmaxFill] at hread
    rw [result_run hasked hpath hload, Logged.result_bind, result_dumpSegment hfound hgap hread]
    show (visible _).result = _
    rw [visible, hplain]
    rfl
  · rw [← hbytes, hdata]
    exact hdump

end Running

/-! ### Runs -/

/-- The same file at every path. -/
def everywhere (content : Bytes) : Files := fun _ => some (.file content)

/-- A path may be that of a file unless the null character is in it. -/
theorem isPossible_iff (path : String) :
    Path.isPossible path = true ↔ Char.ofNat 0 ∉ path.toList := by
  rw [Path.isPossible, String.contains_char_eq]
  simp

section
open scoped CommonMachine PlainConsole

/-- If one byte may be filled, three of the eight declared can be had. They are shown if six are
asked for, and the status is one. -/
theorem dump_shows_three_of_six :
    ∃ s lines rows, (Command.run .dump (everywhere Module.gapAtEnd) { maxFill := .integer 1 }
        ["-n", "6", "m.obj", "0"]).result = .ok {
        printed := (dumpHeading s :: lines ++
          dumpMessages (sessionOf s 1 [.read 6]).final).map .text
        status := 1 } ∧
      List.Forall₂ (fun line row => readLine? line = some row) lines rows ∧
      IsDump 0 [0, 0x44, 0x44] rows := by
  have facts : (loadModule (everywhere Module.gapAtEnd) { maxFill := .integer 1 }
      "m.obj").result.toOption.map (fun m => (findSegment? m "0").any fun s =>
        decide (IsBare s.displayName.toList) && decide (IsBare (s.className.getD "").toList) &&
          decide (∀ f ∈ s.fragments, f.HidesNothing) && s.address.getD 0 == 0 &&
          (sessionOf s 1 [.readAll]).bytes == [0, 0x44, 0x44] &&
          (sessionOf s 1 [.read 6]).final.error.isSome) = some true := by
    decide +kernel
  have hasked : asked? ["-n", "6", "m.obj", "0"] = some ("m.obj", "0", 6) := by decide +kernel
  have hpath : Path.isPossible "m.obj" = true := (isPossible_iff _).mpr (by decide)
  have hgap : Settings.widestGap? (.integer 1) = some 1 := rfl
  have room : (dumpRequest 6).HasRoom :=
    Capacity.room_eq_ok (by decide) (by decide) (by decide)
  have holds : Machine.HoldsModules := ⟨by decide, by decide⟩
  obtain ⟨m, hload, hfacts⟩ := Outcome.exists_of_toOption_map facts
  simp only [Bool.and_eq_true, Option.any_eq_true, decide_eq_true_eq, beq_iff_eq] at hfacts
  obtain ⟨s, hfound, ⟨⟨⟨⟨hname, hclass⟩, hidden⟩, haddress⟩, hbytes⟩, failed⟩ := hfacts
  obtain ⟨_, _, lines, rows, hrun, hlines, hdump⟩ :=
    dump_shows PlainConsole.isDocumented holds hasked hpath hload hfound hname hclass hgap hidden
      room
  refine ⟨s, lines, rows, ?_, hlines, ?_⟩
  · rw [hrun]
    show Except.ok (Output.mk _ (if (sessionOf s 1 [.read 6]).final.error.isSome then 1 else 0)) = _
    rw [if_pos failed]
    rfl
  · rw [hbytes, haddress] at hdump
    exact hdump

end

section
variable [Machine] [Console]

/-- Whether a dump fails, although a module is loaded, a segment is found in it whose names hold
no brackets and no backslashes, and nothing beyond the limit is hidden. -/
def FailsToDump (files : Files) (settings : Settings) (arguments : List String) : Prop :=
  ∃ path target limit m s, asked? arguments = some (path, target, limit) ∧
    (loadModule files settings path).result = .ok m ∧ findSegment? m target = some s ∧
    IsBare s.displayName.toList ∧ IsBare (s.className.getD "").toList ∧
    (∀ f ∈ s.fragments, f.HidesNothing) ∧
    (Command.run .dump files settings arguments).result.isOk = false

theorem failsToDump {files : Files} {settings : Settings} {arguments : List String}
    {path target : String} {limit : Int} (hasked : asked? arguments = some (path, target, limit))
    (hpath : Char.ofNat 0 ∉ path.toList)
    (facts : (loadModule files settings path).result.toOption.map (fun m =>
      !(dumpSegment settings m target limit).result.isOk && (findSegment? m target).any fun s =>
        decide (IsBare s.displayName.toList) && decide (IsBare (s.className.getD "").toList) &&
          decide (∀ f ∈ s.fragments, f.HidesNothing)) = some true) :
    FailsToDump files settings arguments := by
  obtain ⟨m, hload, hfacts⟩ := Outcome.exists_of_toOption_map facts
  simp only [Bool.and_eq_true, Option.any_eq_true, decide_eq_true_eq, Bool.not_eq_true'] at hfacts
  obtain ⟨fails, s, hfound, ⟨hname, hclass⟩, hidden⟩ := hfacts
  refine ⟨path, target, limit, m, s, hasked, hload, hfound, hname, hclass, hidden, ?_⟩
  rw [result_run hasked ((isPossible_iff path).mpr hpath) hload, Logged.result_bind]
  cases hresult : (dumpSegment settings m target limit).result with
  | ok output =>
    rw [hresult] at fails
    cases fails
  | error stop => rfl

end

open scoped CommonMachine PlainConsole

/-- More bytes than can be counted cannot be asked for, and no gap can be filled if the widest
is no number. -/
theorem dump_fails :
    FailsToDump (everywhere Module.gapAtEnd) {} ["-n", "9223372036854775808", "m.obj", "0"] ∧
    FailsToDump (everywhere Module.gapAtEnd) { maxFill := .string (Text.codes "9") }
      ["m.obj", "0"] := by
  have huncountable : asked? ["-n", "9223372036854775808", "m.obj", "0"] =
      some ("m.obj", "0", 0x8000000000000000) := by
    decide +kernel
  have husual : asked? ["m.obj", "0"] = some ("m.obj", "0", 256) := by decide +kernel
  exact ⟨failsToDump huncountable (by decide) (by decide +kernel),
    failsToDump husual (by decide) (by decide +kernel)⟩

end CommandLine
end ObjectModule
