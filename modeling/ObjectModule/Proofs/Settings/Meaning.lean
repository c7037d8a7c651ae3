import Mathlib.Data.List.Perm.Subperm
import ObjectModule.Settings

/-! What a configuration file means.

Each of the three options is named by two keys and by no other, as long as keys are ASCII
(`plainKey_eq_iff`). So settings hang on nothing but the values given under these, in their order:
other keys may stand anywhere and are reported, sorted and each once, and keys may be spelled
either way. If no option is given under both its keys, even their order does not matter
(`parse_by_meaning`). -/
namespace ObjectModule.Settings
open Text (Codes codes)

/-- What may be chosen. -/
inductive Choice where
  | maxFill
  | baseAddress
  | alignOverride
deriving DecidableEq, Repr

/-- The key of a choice, with underscores. -/
def Choice.underscored : Choice → String
  | maxFill => "max_fill"
  | baseAddress => "base_address"
  | alignOverride => "align_override"

/-- The key of a choice, with capitals. -/
def Choice.capitalised : Choice → String
  | maxFill => "maxFill"
  | baseAddress => "baseAddress"
  | alignOverride => "alignOverride"

/-- Whether a key names a choice. -/
def Choice.Spells (choice : Choice) (key : Codes) : Prop :=
  key = codes choice.underscored ∨ key = codes choice.capitalised

instance (choice : Choice) (key : Codes) : Decidable (choice.Spells key) :=
  inferInstanceAs (Decidable (_ ∨ _))

/-- What settings say about a choice. -/
def get (settings : Settings) : Choice → Json
  | .maxFill => settings.maxFill
  | .baseAddress => settings.baseAddress
  | .alignOverride => settings.alignOverride

/-- The members of a JSON object. -/
abbrev Members := List (Codes × Json)

/-- Whether all keys are ASCII. -/
def AsciiKeys (members : Members) : Prop := ∀ m ∈ members, ∀ code ∈ m.1, code < 0x80

/-- The values given to a choice, in order. -/
def given (members : Members) (choice : Choice) : List Json :=
  (members.filter fun m => choice.Spells m.1).map Prod.snd

/-- Members that differ in which of its keys names a choice, and in keys that name none. -/
inductive Retells : Members → Members → Prop
  | nil : Retells [] []
  | respelled {choice : Choice} {key key' : Codes} {value : Json} {members members' : Members}
      (spells : choice.Spells key) (spells' : choice.Spells key')
      (others : Retells members members') :
      Retells ((key, value) :: members) ((key', value) :: members')
  | inserted {key : Codes} {value : Json} {members members' : Members}
      (other : ∀ choice : Choice, ¬ choice.Spells key) (others : Retells members members') :
      Retells members ((key, value) :: members')
  | deleted {key : Codes} {value : Json} {members members' : Members}
      (other : ∀ choice : Choice, ¬ choice.Spells key) (others : Retells members members') :
      Retells ((key, value) :: members) members'

/-- Whether a choice is given under both its keys. -/
def GivenTwice (members : Members) (choice : Choice) : Prop :=
  codes choice.underscored ∈ members.map Prod.fst ∧ codes choice.capitalised ∈ members.map Prod.fst

variable {members members' : Members} {choice : Choice} {key plain : Codes} {code : Nat}

/-! ### Keys -/

/-- Whether a code is that of a capital. -/
def IsCapital (code : Nat) : Prop := 0x41 ≤ code ∧ code ≤ 0x5A

instance (code : Nat) : Decidable (IsCapital code) := inferInstanceAs (Decidable (_ ∧ _))

theorem plainKey_cons (h : code < 0x80) (key : Codes) :
    plainKey (code :: key) =
      if IsCapital code then 0x5F :: (code + 32) :: plainKey key else code :: plainKey key := by
  by_cases hcapital : IsCapital code
  · have hlowered : Text.lowered? code = some [code + 32] := by
      rw [Text.lowered?, if_pos h]
      exact if_pos hcapital
    rw [plainKey, List.flatMap_cons, hlowered, if_pos hcapital]
    rfl
  · have hlowered : Text.lowered? code = none := by
      rw [Text.lowered?, if_pos h]
      exact if_neg hcapital
    rw [plainKey, List.flatMap_cons, hlowered, if_neg hcapital]
    rfl

/-- The ASCII keys that are the same once capitals are replaced: an underscore and a small letter
may come of a capital. -/
def keysFor : Codes → List Codes
  | [] => [[]]
  | code :: rest =>
    (if IsCapital code then [] else (keysFor rest).map (code :: ·)) ++
      match rest with
      | [] => []
      | small :: more =>
        if code = 0x5F ∧ IsCapital (small - 32) then (keysFor more).map ((small - 32) :: ·) else []

theorem nil_not_mem_keysFor (code : Nat) (rest : Codes) : [] ∉ keysFor (code :: rest) := by
  cases rest with
  | nil =>
    rw [keysFor]
    split <;> simp
  | cons small more =>
    rw [keysFor]
    split <;> split <;> simp

theorem mem_keysFor_cons {first : Nat} {others rest : Codes} :
    first :: others ∈ keysFor (code :: rest) ↔
      (¬ IsCapital first ∧ first = code ∧ others ∈ keysFor rest) ∨
        (IsCapital first ∧ code = 0x5F ∧
          ∃ more, rest = (first + 32) :: more ∧ others ∈ keysFor more) := by
  rw [keysFor.eq_def, List.mem_append]
  refine or_congr ?_ ?_
  · by_cases hcapital : IsCapital code
    · rw [if_pos hcapital]
      refine iff_of_false List.not_mem_nil ?_
      rintro ⟨hfirst, rfl, _⟩
      exact hfirst hcapital
    · rw [if_neg hcapital, List.mem_map]
      constructor
      · rintro ⟨_, hothers, h⟩
        cases h
        exact ⟨hcapital, rfl, hothers⟩
      · rintro ⟨_, rfl, hothers⟩
        exact ⟨_, hothers, rfl⟩
  · cases rest with
    | nil => simp
    | cons small more =>
      dsimp only
      by_cases hsmall : code = 0x5F ∧ IsCapital (small - 32)
      · rw [if_pos hsmall, List.mem_map]
        obtain ⟨hcode, hcapital⟩ := hsmall
        have hsum : small - 32 + 32 = small := by
          have := hcapital.1
          omega
        constructor
        · rintro ⟨_, hothers, h⟩
          cases h
          exact ⟨hcapital, hcode, more, by rw [hsum], hothers⟩
        · rintro ⟨_, _, _, h, hothers⟩
          cases h
          exact ⟨_, hothers, by rw [Nat.add_sub_cancel]⟩
      · rw [if_neg hsmall]
        refine iff_of_false List.not_mem_nil ?_
        rintro ⟨hcapital, hcode, _, h, _⟩
        cases h
        rw [Nat.add_sub_cancel] at hsmall
        exact hsmall ⟨hcode, hcapital⟩

/-- **The ASCII keys that are one once capitals are replaced** can be listed. -/
theorem plainKey_eq_iff_mem (h : ∀ code ∈ key, code < 0x80) :
    plainKey key = plain ↔ key ∈ keysFor plain := by
  induction key generalizing plain with
  | nil =>
    cases plain with
    | nil => simp [plainKey, keysFor]
    | cons code rest => exact iff_of_false (List.cons_ne_nil _ _).symm (nil_not_mem_keysFor _ _)
  | cons first others ih =>
    obtain ⟨hfirst, hothers⟩ := List.forall_mem_cons.mp h
    rw [plainKey_cons hfirst]
    cases plain with
    | nil => split <;> simp [keysFor]
    | cons code rest =>
      simp only [mem_keysFor_cons, ← ih hothers]
      by_cases hcapital : IsCapital first
      · simp [hcapital, eq_comm, and_comm]
      · simp [hcapital]

/-- **A choice is named by its two keys**, and by no other that is ASCII. -/
theorem plainKey_eq_iff (h : ∀ code ∈ key, code < 0x80) :
    plainKey key = codes choice.underscored ↔ choice.Spells key := by
  have both : keysFor (codes choice.underscored) =
      [codes choice.underscored, codes choice.capitalised] := by
    cases choice <;> decide +kernel
  rw [plainKey_eq_iff_mem h, both, List.mem_pair]
  exact Iff.rfl

theorem mem_optionKeys_iff (h : ∀ code ∈ key, code < 0x80) :
    plainKey key ∈ optionKeys ↔ ∃ choice : Choice, choice.Spells key := by
  have keys : optionKeys = [Choice.maxFill, .baseAddress, .alignOverride].map
      fun choice => codes choice.underscored := rfl
  rw [keys, List.mem_map]
  constructor
  · rintro ⟨choice, _, hkey⟩
    exact ⟨choice, (plainKey_eq_iff h).mp hkey.symm⟩
  · rintro ⟨choice, hkey⟩
    exact ⟨choice, by cases choice <;> simp, ((plainKey_eq_iff h).mpr hkey).symm⟩

/-! ### Values -/

theorem lookup_insert (key : Codes) (value : Json) (done : Members) (k : Codes) :
    (Json.insert key value done).lookup k = if k = key then some value else done.lookup k := by
  induction done with
  | nil =>
    rw [Json.insert, List.lookup_cons]
    split <;> simp_all
  | cons m rest ih =>
    obtain ⟨k', v⟩ := m
    rw [Json.insert]
    split
    · next same =>
      subst same
      rw [List.lookup_cons, List.lookup_cons]
      split <;> simp_all
    · next other =>
      rw [List.lookup_cons, List.lookup_cons, ih]
      split
      · next same => rw [if_neg fun h : k = key => other ((eq_of_beq same).symm.trans h)]
      · rfl

/-- Behind members already taken in, the value under a key is the last that is given there, or
else what was there before. -/
theorem lookup_foldl_insert (members done : Members) (k : Codes) :
    (members.foldl (fun done m => Json.insert (plainKey m.1) m.2 done) done).lookup k =
      ((members.filter fun m => plainKey m.1 == k).map Prod.snd).getLast?.or (done.lookup k) := by
  induction members generalizing done with
  | nil => rfl
  | cons m rest ih =>
    rw [List.foldl_cons, ih, lookup_insert, List.filter_cons]
    by_cases same : plainKey m.1 = k
    · rw [if_pos same.symm, if_pos (beq_iff_eq.mpr same), List.map_cons, List.getLast?_cons]
      cases ((rest.filter fun m => plainKey m.1 == k).map Prod.snd).getLast? <;> rfl
    · rw [if_neg (Ne.symm same), if_neg (fun h => same (eq_of_beq h))]

/-- **The value that counts is the last that is given.** -/
theorem lookup_converted (h : AsciiKeys members) (choice : Choice) :
    (converted members).lookup (codes choice.underscored) = (given members choice).getLast? := by
  have same : ∀ m ∈ members, (plainKey m.1 == codes choice.underscored) =
      decide (choice.Spells m.1) := by
    intro m hm
    rw [Bool.beq_eq_decide_eq, decide_eq_decide]
    exact plainKey_eq_iff (h m hm)
  have hlookup := lookup_foldl_insert members [] (codes choice.underscored)
  rwa [List.lookup_nil, Option.or_none, List.filter_congr same] at hlookup

theorem get_ofMembers (h : AsciiKeys members) (choice : Choice) :
    (ofMembers members).get choice =
      (given members choice).getLast?.getD (({} : Settings).get choice) := by
  rw [← lookup_converted h]
  cases choice <;> rfl

theorem ext_get {settings settings' : Settings}
    (h : ∀ choice, settings'.get choice = settings.get choice) : settings' = settings := by
  have hfill : settings'.maxFill = settings.maxFill := h .maxFill
  have hbase : settings'.baseAddress = settings.baseAddress := h .baseAddress
  have halign : settings'.alignOverride = settings.alignOverride := h .alignOverride
  cases settings
  cases settings'
  simp_all

/-- **Settings hang on nothing but the values given to each choice.** -/
theorem ofMembers_congr (h : AsciiKeys members) (h' : AsciiKeys members')
    (same : ∀ choice, given members' choice = given members choice) :
    ofMembers members' = ofMembers members := by
  refine ext_get fun choice => ?_
  rw [get_ofMembers h', get_ofMembers h, same]

theorem given_append (front back : Members) (choice : Choice) :
    given (front ++ back) choice = given front choice ++ given back choice := by
  rw [given, given, given, List.filter_append, List.map_append]

theorem given_cons (key : Codes) (value : Json) (members : Members) (choice : Choice) :
    given ((key, value) :: members) choice =
      if choice.Spells key then value :: given members choice else given members choice := by
  unfold given
  by_cases h : choice.Spells key
  · simp [h]
  · simp [h]

theorem given_eq_nil (h : ∀ m ∈ members, ¬ choice.Spells m.1) : given members choice = [] := by
  rw [given, List.map_eq_nil_iff, List.filter_eq_nil_iff]
  exact fun m hm hspells => h m hm (of_decide_eq_true hspells)

/-- A choice that is given nothing has its default. -/
theorem get_of_not_given (h : AsciiKeys members) (hnone : ∀ m ∈ members, ¬ choice.Spells m.1) :
    (ofMembers members).get choice = ({} : Settings).get choice := by
  rw [get_ofMembers h, given_eq_nil hnone]
  rfl

/-- The value placed last counts. -/
theorem get_of_last {front back : Members} {value : Json}
    (h : AsciiKeys (front ++ (key, value) :: back)) (hkey : choice.Spells key)
    (hback : ∀ m ∈ back, ¬ choice.Spells m.1) :
    (ofMembers (front ++ (key, value) :: back)).get choice = value := by
  rw [get_ofMembers h, given_append, given_cons, if_pos hkey, given_eq_nil hback,
    List.getLast?_concat]
  rfl

/-! ### Other members, other spellings, another order -/

theorem Choice.Spells.unique {other : Choice} (h : choice.Spells key) (h' : other.Spells key) :
    other = choice := by
  rcases h with rfl | rfl
  · revert h'
    cases choice <;> cases other <;> decide +kernel
  · revert h'
    cases choice <;> cases other <;> decide +kernel

/-- Other members, and how a key is spelled, do not matter. -/
theorem given_of_retells (h : Retells members members') (choice : Choice) :
    given members' choice = given members choice := by
  induction h with
  | nil => rfl
  | @respelled other key key' value members members' spells spells' _ ih =>
    have same : choice.Spells key' ↔ choice.Spells key := by
      constructor
      · intro h
        rwa [spells'.unique h]
      · intro h
        rwa [spells.unique h]
    rw [given_cons, given_cons, ih]
    simp only [same]
  | inserted other _ ih => rw [given_cons, if_neg (other choice), ih]
  | deleted other _ ih => rw [given_cons, if_neg (other choice), ih]

/-- Under keys that are all different and not both those of a choice, it is given once at most. -/
theorem length_given_le (hdistinct : (members.map Prod.fst).Nodup)
    (once : ¬ GivenTwice members choice) : (given members choice).length ≤ 1 := by
  have hkeys : ((members.filter fun m => choice.Spells m.1).map Prod.fst).Nodup :=
    hdistinct.sublist (List.filter_sublist.map Prod.fst)
  have hone : ∃ key, (members.filter fun m => choice.Spells m.1).map Prod.fst ⊆ [key] := by
    by_cases plain : codes choice.underscored ∈ members.map Prod.fst
    · refine ⟨codes choice.underscored, fun key hkey => List.mem_singleton.mpr ?_⟩
      obtain ⟨m, hm, rfl⟩ := List.mem_map.mp hkey
      obtain ⟨hm, hspells⟩ := List.mem_filter.mp hm
      refine (of_decide_eq_true hspells).resolve_right fun other => once ⟨plain, ?_⟩
      exact other ▸ List.mem_map_of_mem hm
    · refine ⟨codes choice.capitalised, fun key hkey => List.mem_singleton.mpr ?_⟩
      obtain ⟨m, hm, rfl⟩ := List.mem_map.mp hkey
      obtain ⟨hm, hspells⟩ := List.mem_filter.mp hm
      refine (of_decide_eq_true hspells).resolve_left fun other => plain ?_
      exact other ▸ List.mem_map_of_mem hm
  obtain ⟨key, hone⟩ := hone
  have := (List.subperm_of_subset hkeys hone).length_le
  rw [List.length_map] at this
  rwa [given, List.length_map]

/-- If no choice is given twice, the order of members does not matter. -/
theorem given_of_perm (hdistinct : (members.map Prod.fst).Nodup)
    (once : ∀ choice, ¬ GivenTwice members choice) (h : members.Perm members') (choice : Choice) :
    given members' choice = given members choice := by
  have perm : (given members choice).Perm (given members' choice) := (h.filter _).map _
  have hlength := length_given_le hdistinct (once choice)
  cases hgiven : given members choice with
  | nil =>
    rw [hgiven] at perm
    exact perm.nil_eq.symm
  | cons value rest =>
    rw [hgiven, List.length_cons] at hlength
    obtain rfl := List.eq_nil_of_length_eq_zero (Nat.le_zero.mp (Nat.le_of_succ_le_succ hlength))
    rw [hgiven] at perm
    exact List.singleton_perm.mp perm |>.symm

/-! ### Keys that name no choice -/

/-- Keys in ascending order, by their codes. -/
def Ascending (keys : List Codes) : Prop := keys.Pairwise fun k l => k.lex l = true

theorem lex_of_not_lex {k l : Codes} (h : (!l.lex k) = true) (hne : k ≠ l) : k.lex l = true := by
  rw [Bool.not_eq_true', List.lex_eq_false_iff_ge] at h
  rw [List.lex_eq_true_iff_lt]
  exact (List.le_iff_lt_or_eq.mp h).resolve_right hne

/-- The keys behind one more member. -/
theorem mem_keys_insert {value : Json} {done : Members} {k : Codes} :
    k ∈ (Json.insert key value done).map Prod.fst ↔ k = key ∨ k ∈ done.map Prod.fst := by
  induction done with
  | nil => simp [Json.insert]
  | cons m rest ih =>
    rw [Json.insert]
    split
    · next same => simp [same]
    · rw [List.map_cons, List.map_cons, List.mem_cons, List.mem_cons, ih, or_left_comm]

theorem nodup_keys_insert {value : Json} {done : Members} (h : (done.map Prod.fst).Nodup) :
    ((Json.insert key value done).map Prod.fst).Nodup := by
  induction done with
  | nil => simp [Json.insert]
  | cons m rest ih =>
    obtain ⟨hfirst, hrest⟩ := List.nodup_cons.mp h
    rw [Json.insert]
    split
    · next same => exact List.nodup_cons.mpr ⟨same ▸ hfirst, hrest⟩
    · next other =>
      refine List.nodup_cons.mpr ⟨fun hmem => ?_, ih hrest⟩
      exact (mem_keys_insert.mp hmem).elim other hfirst

theorem mem_keys_converted : key ∈ (converted members).map Prod.fst ↔
    ∃ m ∈ members, plainKey m.1 = key := by
  have onward (done : Members) :
      key ∈ (members.foldl (fun done m => Json.insert (plainKey m.1) m.2 done) done).map Prod.fst ↔
        key ∈ done.map Prod.fst ∨ ∃ m ∈ members, plainKey m.1 = key := by
    induction members generalizing done with
    | nil => simp
    | cons m rest ih =>
      rw [List.foldl_cons, ih, mem_keys_insert, List.exists_mem_cons_iff, eq_comm, or_assoc,
        or_left_comm]
  exact (onward []).trans (by simp)

/-- Under plain keys there are no two members. -/
theorem nodup_keys_converted (members : Members) : ((converted members).map Prod.fst).Nodup := by
  have onward (done : Members) (h : (done.map Prod.fst).Nodup) :
      ((members.foldl (fun done m => Json.insert (plainKey m.1) m.2 done) done).map
        Prod.fst).Nodup := by
    induction members generalizing done with
    | nil => exact h
    | cons m rest ih => exact ih _ (nodup_keys_insert h)
  exact onward [] List.nodup_nil

/-- **What is reported are the keys that name no choice**, with their capitals replaced. -/
theorem mem_unknownKeys (h : AsciiKeys members) :
    key ∈ unknownKeys members ↔
      ∃ m ∈ members, (∀ choice : Choice, ¬ choice.Spells m.1) ∧ plainKey m.1 = key := by
  have unknown : ∀ m ∈ members, (!optionKeys.contains (plainKey m.1)) = true ↔
      ∀ choice : Choice, ¬ choice.Spells m.1 := by
    intro m hm
    rw [Bool.not_eq_true', ← Bool.not_eq_true, List.contains_iff_mem, mem_optionKeys_iff (h m hm),
      not_exists]
  rw [unknownKeys, List.mem_mergeSort, List.mem_filter, mem_keys_converted]
  constructor
  · rintro ⟨⟨m, hm, rfl⟩, hunknown⟩
    exact ⟨m, hm, (unknown m hm).mp hunknown, rfl⟩
  · rintro ⟨m, hm, hunknown, rfl⟩
    exact ⟨⟨m, hm, rfl⟩, (unknown m hm).mpr hunknown⟩

/-- **They are reported in ascending order, each once.** -/
theorem ascending_unknownKeys (members : Members) : Ascending (unknownKeys members) := by
  have sorted : ∀ keys : List Codes,
      (keys.mergeSort fun k l => !l.lex k).Pairwise fun k l => (!l.lex k) = true := by
    refine List.pairwise_mergeSort (fun k l m h h' => ?_) fun k l => ?_
    · rw [Bool.not_eq_true', List.lex_eq_false_iff_ge] at *
      exact List.le_trans h h'
    · rw [Bool.or_eq_true, Bool.not_eq_true', Bool.not_eq_true', List.lex_eq_false_iff_ge,
        List.lex_eq_false_iff_ge]
      exact List.le_total k l
  have distinct : (unknownKeys members).Nodup :=
    (List.mergeSort_perm _ _).nodup_iff.mpr ((nodup_keys_converted members).filter _)
  exact (sorted _).imp₂ (fun _ _ => lex_of_not_lex) distinct

/-! ### Files -/

theorem result_parse {text : String} (h : Json.parse text = .ok (.object members)) :
    (parse text).result = .ok (ofMembers members) := by
  rw [parse, h]
  rfl

theorem log_parse {text : String} (h : Json.parse text = .ok (.object members)) :
    (parse text).log = (unknownKeys members).map .unknownKey := by
  rw [parse, h]
  exact List.append_nil _

/-- **A configuration file means what it gives to each choice.** The last value given under one of
its keys counts, and none gives the default; other keys are reported with their capitals replaced,
ascending, each once. Other keys do not matter to the settings, nor how keys are spelled, nor their
order, if no choice is given twice. -/
theorem parse_by_meaning {text : String} (hparse : Json.parse text = .ok (.object members))
    (hascii : AsciiKeys members) :
    ∃ settings, (parse text).result = .ok settings ∧
      (parse text).log = (unknownKeys members).map .unknownKey ∧
      Ascending (unknownKeys members) ∧
      (∀ key, key ∈ unknownKeys members ↔
        ∃ m ∈ members, (∀ choice : Choice, ¬ choice.Spells m.1) ∧ plainKey m.1 = key) ∧
      (∀ choice : Choice, (∀ m ∈ members, ¬ choice.Spells m.1) →
        settings.get choice = ({} : Settings).get choice) ∧
      (∀ (choice : Choice) front key value back, members = front ++ (key, value) :: back →
        choice.Spells key → (∀ m ∈ back, ¬ choice.Spells m.1) → settings.get choice = value) ∧
      ∀ text' members', Json.parse text' = .ok (.object members') → AsciiKeys members' →
        (Retells members members' → (parse text').result = .ok settings) ∧
        ((members.map Prod.fst).Nodup → (∀ choice, ¬ GivenTwice members choice) →
          ∀ reordered, members.Perm reordered → Retells reordered members' →
            (parse text').result = .ok settings) := by
  refine ⟨ofMembers members, result_parse hparse, log_parse hparse, ascending_unknownKeys members,
    fun key => mem_unknownKeys hascii, fun choice => get_of_not_given hascii, ?_, ?_⟩
  · rintro choice front key value back rfl hkey hback
    exact get_of_last hascii hkey hback
  · intro text' members' hparse' hascii'
    rw [result_parse hparse']
    constructor
    · intro retells
      rw [ofMembers_congr hascii hascii' (given_of_retells retells)]
    · intro hdistinct once reordered perm retells
      rw [ofMembers_congr hascii hascii' fun choice =>
        (given_of_retells retells choice).trans (given_of_perm hdistinct once perm choice)]

/-! ### A file with a choice given twice -/

/-- Members whose values are all integers, with these. -/
def integers? : Members → Option (List (Codes × Int))
  | [] => some []
  | (key, .integer n) :: rest => (integers? rest).map ((key, n) :: ·)
  | _ :: _ => none

theorem eq_of_integers? {told : List (Codes × Int)} (h : integers? members = some told) :
    members = told.map fun m => (m.1, .integer m.2) := by
  fun_induction integers? members generalizing told with
  | case1 =>
    cases h
    rfl
  | case2 key n rest ih =>
    obtain ⟨others, hothers, rfl⟩ := Option.map_eq_some_iff.mp h
    rw [ih hothers]
    rfl
  | case3 => cases h

/-- What a text is read as, if that is an object whose values are integers. -/
def integersIn? (text : String) : Option (List (Codes × Int)) :=
  match Json.parse text with
  | .ok (.object members) => integers? members
  | _ => none

theorem parse_of_integersIn? {text : String} {told : List (Codes × Int)}
    (h : integersIn? text = some told) :
    Json.parse text = .ok (.object (told.map fun m => (m.1, .integer m.2))) := by
  unfold integersIn? at h
  split at h
  · next hparse => rw [hparse, eq_of_integers? h]
  · cases h

/-- A key of no choice between the two keys of one. -/
def twiceGiven : String := "\x7b\"maxFill\": 5, \"gapSize\": 1, \"max_fill\": 7\x7d"

/-- The two keys the other way round. -/
def keysChanged : String := "\x7b\"max_fill\": 5, \"maxFill\": 7\x7d"

/-- In either file the value placed last counts, and the key of no choice is reported. -/
theorem parse_by_meaning_twice :
    let members : Members := [(codes "maxFill", .integer 5), (codes "gapSize", .integer 1),
      (codes "max_fill", .integer 7)]
    let members' : Members := [(codes "max_fill", .integer 5), (codes "maxFill", .integer 7)]
    Json.parse twiceGiven = .ok (.object members) ∧ AsciiKeys members ∧
      Json.parse keysChanged = .ok (.object members') ∧ AsciiKeys members' ∧
      Retells members members' ∧
      ∃ settings, (parse twiceGiven).result = .ok settings ∧
        (parse keysChanged).result = .ok settings ∧
        settings.get .maxFill = .integer 7 ∧ settings.get .baseAddress = .integer 0 ∧
        codes "gap_size" ∈ unknownKeys members := by
  intro members members'
  have hread : integersIn? twiceGiven =
      some [(codes "maxFill", 5), (codes "gapSize", 1), (codes "max_fill", 7)] := by
    decide +kernel
  have hread' : integersIn? keysChanged =
      some [(codes "max_fill", 5), (codes "maxFill", 7)] := by decide +kernel
  have hparse := parse_of_integersIn? hread
  have hparse' := parse_of_integersIn? hread'
  have hascii : AsciiKeys members := by
    have all : ∀ key ∈ members.map Prod.fst, ∀ code ∈ key, code < 0x80 := by decide +kernel
    exact fun m hm => all m.1 (List.mem_map_of_mem hm)
  have hascii' : AsciiKeys members' := by
    have all : ∀ key ∈ members'.map Prod.fst, ∀ code ∈ key, code < 0x80 := by decide +kernel
    exact fun m hm => all m.1 (List.mem_map_of_mem hm)
  have other : ∀ choice : Choice, ¬ choice.Spells (codes "gapSize") := by
    intro choice
    cases choice <;> decide +kernel
  have capitals : Choice.maxFill.Spells (codes "maxFill") := .inr rfl
  have underscores : Choice.maxFill.Spells (codes "max_fill") := .inl rfl
  have retells : Retells members members' :=
    .respelled capitals underscores (.deleted other (.respelled underscores capitals .nil))
  obtain ⟨settings, hresult, _, _, hunknown, hdefault, hlast, hsame⟩ :=
    parse_by_meaning hparse hascii
  refine ⟨hparse, hascii, hparse', hascii', retells, settings, hresult,
    (hsame _ _ hparse' hascii').1 retells, ?_, ?_, ?_⟩
  · exact hlast .maxFill [_, _] _ _ [] rfl underscores (by simp)
  · refine hdefault .baseAddress fun m hm => ?_
    have all : ∀ key ∈ members.map Prod.fst, ¬ Choice.baseAddress.Spells key := by decide +kernel
    exact all m.1 (List.mem_map_of_mem hm)
  · exact (hunknown _).mpr ⟨(codes "gapSize", .integer 1), by simp, other, by decide +kernel⟩

end ObjectModule.Settings
