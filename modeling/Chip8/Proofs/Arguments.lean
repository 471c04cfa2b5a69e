import Chip8.Host.CommandLine
import Chip8.Proofs.Numerals

namespace Chip8.Host

namespace Argument

theorem splitValue_of_no_equals {name : List Char} (plain : '=' ∉ name) : splitValue name = (name, none) := by
  induction name with
  | nil => rfl
  | cons c name ih =>
    obtain ⟨other, rest⟩ := not_or.mp (plain ∘ List.mem_cons.mpr)
    rw [splitValue, if_neg (Ne.symm other), ih rest]

theorem splitValue_append {name : List Char} (plain : '=' ∉ name) (value : List Char) :
    splitValue (name ++ '=' :: value) = (name, some value) := by
  induction name with
  | nil => rfl
  | cons c name ih =>
    obtain ⟨other, rest⟩ := not_or.mp (plain ∘ List.mem_cons.mpr)
    rw [List.cons_append, splitValue, if_neg (Ne.symm other), ih rest]

def spelled (name : String) : Option String → String
  | none => "--" ++ name
  | some value => "--" ++ name ++ "=" ++ value

theorem ofChars_long {text : List Char} (some_text : text ≠ []) :
    ofChars ('-' :: '-' :: text) =
      long (String.ofList (splitValue text).1) ((splitValue text).2.map String.ofList) := by
  cases text with
  | nil => exact absurd rfl some_text
  | cons c text => rw [ofChars]; simp

theorem ofText_spelled {name : String} (named : name ≠ "") (plain : '=' ∉ name.toList) (value : Option String) :
    ofText (spelled name value) = long name value := by
  have some_name : name.toList ≠ [] := fun empty => named (String.toList_eq_nil_iff.mp empty)
  cases value with
  | none =>
    have chars : (spelled name none).toList = '-' :: '-' :: name.toList := by simp [spelled]
    rw [ofText, chars, ofChars_long some_name, splitValue_of_no_equals plain]
    simp
  | some value =>
    have chars : (spelled name (some value)).toList = '-' :: '-' :: (name.toList ++ '=' :: value.toList) := by
      simp [spelled]
    rw [ofText, chars, ofChars_long (by simp), splitValue_append plain]
    simp

theorem ofText_plain {text : String} (undashed : text.toList.head? ≠ some '-') : ofText text = .plain text := by
  rw [ofText]
  unfold ofChars
  split <;> simp_all

theorem eq_of_ofText_eq_plain {text text' : String} (read : ofText text = .plain text') : text = text' := by
  unfold ofText ofChars at read
  split at read <;> simp_all

end Argument

/-- Arguments that belong together. -/
inductive Group where
  | path (text : String)
  | setting (s : Setting) (text : String) (attached : Bool)
  | switch (s : Switch)
deriving DecidableEq

inductive Kind where
  | path
  | setting (s : Setting)
  | switch (s : Switch)
deriving DecidableEq

namespace Group

def kind : Group → Kind
  | path _ => .path
  | setting s _ _ => .setting s
  | switch s => .switch s

def arguments : Group → List String
  | path text => [text]
  | setting s text true => [Argument.spelled s.name (some text)]
  | setting s text false => [Argument.spelled s.name none, text]
  | switch s => [Argument.spelled s.name none]

def Undashed : Group → Prop
  | path text | setting _ text false => text.toList.head? ≠ some '-'
  | setting _ _ true | switch _ => True

instance decidableUndashed : (a : Group) → Decidable a.Undashed
  | path text | setting _ text false => inferInstanceAs (Decidable (text.toList.head? ≠ some '-'))
  | setting _ _ true | switch _ => inferInstanceAs (Decidable True)

def Valid : Group → Prop
  | path text => text ≠ ""
  | setting .held _ _ | switch _ => True
  | setting _ text _ => ∃ n : Text.Numeral, n.text = text

end Group

def Switch.all : List Switch := [.indexOverflow, .reverseSubtract, .unthrottled]

namespace OptionName

theorem ofName?_name (o : OptionName) : ofName? o.name = some o := by
  rcases o with s | s | _ | _
  · cases s <;> decide +kernel
  · cases s <;> decide +kernel
  · decide +kernel
  · decide +kernel

theorem ofText_spelled_name (o : OptionName) (value : Option String) :
    Argument.ofText (Argument.spelled o.name value) = .long o.name value := by
  have spellable : ∀ o ∈ all, o.name ≠ "" ∧ '=' ∉ o.name.toList := by decide +kernel
  obtain ⟨named, plain⟩ := spellable o (List.mem_of_find?_eq_some (ofName?_name o))
  exact Argument.ofText_spelled named plain value

end OptionName

namespace Given

def add (g : Given) : Group → Except UsageError Given
  | .path text => g.place text
  | .setting s text _ => g.set s text
  | .switch s => g.turnOn s

def holds (g : Given) : Kind → Bool
  | .path => g.path.isSome
  | .setting s => g.has s
  | .switch s => s ∈ g.switches

def put (g : Given) : Group → Given
  | .path text => { g with path := some text }
  | .setting .rate text _ => { g with rate := Text.uint64? text.toList }
  | .setting .limit text _ => { g with limit := Text.uint64? text.toList }
  | .setting .seed text _ => { g with seed := Text.uint64? text.toList }
  | .setting .held text _ => { g with held := some text }
  | .switch s => { g with switches := s :: g.switches }

variable {g g' : Given} {a b : Group}

theorem holds_switch_iff {s : Switch} : g.holds (.switch s) = true ↔ s ∈ g.switches := decide_eq_true_iff

theorem add_eq_ok_iff : g.add a = .ok g' ↔ g.holds a.kind = false ∧ a.Valid ∧ g.put a = g' := by
  rcases a with text | ⟨s, text, attached⟩ | s
  · cases placed : g.path.isSome with
    | true => simp [add, place, holds, Group.kind, placed]
    | false => by_cases empty : text = "" <;> simp [add, place, holds, Group.kind, placed, Group.Valid, empty, put]
  · cases held : g.has s with
    | true => simp [add, set, holds, Group.kind, held]
    | false =>
      cases s with
      | held => simp [add, set, holds, Group.kind, held, put, Group.Valid]
      | rate | limit | seed =>
        simp only [add, set, holds, Group.kind, held, put, Group.Valid, ← Text.isSome_uint64?_iff, number]
        cases Text.uint64? text.toList <;> simp [Except.map]
  · by_cases on : s ∈ g.switches <;> simp [add, turnOn, holds, put, Group.Valid, Group.kind, on]

theorem holds_put (valid : a.Valid) (k : Kind) :
    (g.put a).holds k = true ↔ k = a.kind ∨ g.holds k = true := by
  rcases a with text | ⟨s, text, attached⟩ | s
  · cases k with
    | switch s => simp [holds_switch_iff, put, Group.kind]
    | _ => simp [holds, has, put, Group.kind]
  · cases k with
    | switch s' => cases s <;> simp [holds_switch_iff, put, Group.kind]
    | path => cases s <;> simp [holds, put, Group.kind]
    | setting s' =>
      cases s with
      | held => cases s' <;> simp [holds, has, put, Group.kind]
      | rate | limit | seed =>
        have read := Text.isSome_uint64?_iff.mpr valid
        cases s' <;> simp [holds, has, put, Group.kind, read]
  · cases k with
    | switch s' => simp [holds_switch_iff, put, Group.kind]
    | _ => simp [holds, has, put, Group.kind]

theorem holds_put_eq_false_iff (valid : a.Valid) {k : Kind} :
    (g.put a).holds k = false ↔ k ≠ a.kind ∧ g.holds k = false := by
  rw [← Bool.not_eq_true, holds_put valid, not_or, Bool.not_eq_true]

theorem foldlM_add_eq_ok_iff {groups : List Group} :
    groups.foldlM add g = .ok g' ↔
      (∀ a ∈ groups, g.holds a.kind = false) ∧ (groups.map Group.kind).Nodup ∧ (∀ a ∈ groups, a.Valid) ∧
        groups.foldl put g = g' := by
  induction groups generalizing g with
  | nil => simp [pure, Except.pure]
  | cons a groups ih =>
    have split : (a :: groups).foldlM add g = .ok g' ↔
        ∃ g₁, g.add a = .ok g₁ ∧ groups.foldlM add g₁ = .ok g' := by
      rw [List.foldlM_cons]
      cases g.add a <;> simp [bind, Except.bind]
    have fresh : a.kind ∉ groups.map Group.kind ↔ ∀ b ∈ groups, b.kind ≠ a.kind := by simp
    rw [split]
    simp only [add_eq_ok_iff, ih, List.map_cons, List.nodup_cons, List.forall_mem_cons, List.foldl_cons, fresh]
    constructor
    · rintro ⟨_, ⟨free, valid, rfl⟩, later, distinct, valids, rfl⟩
      simp only [holds_put_eq_false_iff valid] at later
      exact ⟨⟨free, fun b member => (later b member).2⟩, ⟨fun b member => (later b member).1, distinct⟩,
        ⟨valid, valids⟩, rfl⟩
    · rintro ⟨⟨free, later⟩, ⟨others, distinct⟩, ⟨valid, valids⟩, rfl⟩
      refine ⟨_, ⟨free, valid, rfl⟩, ?_, distinct, valids, rfl⟩
      intro b member
      exact (holds_put_eq_false_iff valid).mpr ⟨others b member, later b member⟩

/-- What two readings of a command line have in common if they lead to one setup. -/
structure Same (g g' : Given) : Prop where
  path : g.path = g'.path
  rate : g.rate = g'.rate
  limit : g.limit = g'.limit
  seed : g.seed = g'.seed
  held : g.held = g'.held
  switches : ∀ s, s ∈ g.switches ↔ s ∈ g'.switches

theorem Same.refl (g : Given) : Same g g := ⟨rfl, rfl, rfl, rfl, rfl, fun _ => Iff.rfl⟩

theorem Same.trans {g₁ g₂ g₃ : Given} (first : Same g₁ g₂) (second : Same g₂ g₃) : Same g₁ g₃ where
  path := first.path.trans second.path
  rate := first.rate.trans second.rate
  limit := first.limit.trans second.limit
  seed := first.seed.trans second.seed
  held := first.held.trans second.held
  switches s := (first.switches s).trans (second.switches s)

theorem Same.put (same : Same g g') (a : Group) : Same (g.put a) (g'.put a) := by
  obtain ⟨path, rate, limit, seed, held, switches⟩ := same
  rcases a with text | ⟨s, text, attached⟩ | s
  · exact ⟨rfl, rate, limit, seed, held, switches⟩
  · cases s <;> constructor <;> first | assumption | rfl
  · refine ⟨path, rate, limit, seed, held, fun s' => ?_⟩
    simp [Given.put, switches]

theorem Same.foldl (same : Same g g') (groups : List Group) :
    Same (groups.foldl Given.put g) (groups.foldl Given.put g') := by
  induction groups generalizing g g' with
  | nil => exact same
  | cons a groups ih => exact ih (same.put a)

theorem put_comm (different : a.kind ≠ b.kind) : Same ((g.put a).put b) ((g.put b).put a) := by
  rcases a with text | ⟨s, text, attached⟩ | s
  · rcases b with text' | ⟨s', text', attached'⟩ | s'
    · exact absurd rfl different
    · cases s' <;> exact Same.refl _
    · exact Same.refl _
  · rcases b with text' | ⟨s', text', attached'⟩ | s'
    · cases s <;> exact Same.refl _
    · cases s <;> cases s' <;> first | exact absurd rfl different | exact Same.refl _
    · cases s <;> exact Same.refl _
  · rcases b with text' | ⟨s', text', attached'⟩ | s'
    · exact Same.refl _
    · cases s' <;> exact Same.refl _
    · refine ⟨rfl, rfl, rfl, rfl, rfl, fun other => ?_⟩
      simp [put, or_left_comm]

theorem foldl_put_of_perm {groups groups' : List Group} (perm : groups.Perm groups')
    (distinct : (groups.map Group.kind).Nodup) : Same (groups.foldl put g) (groups'.foldl put g) := by
  induction perm generalizing g with
  | nil => exact Same.refl g
  | cons a _ ih => exact ih (List.nodup_cons.mp distinct).2
  | swap a b groups =>
    have different : b.kind ≠ a.kind := by
      rw [List.map_cons, List.map_cons, List.nodup_cons] at distinct
      exact fun same => distinct.1 (same ▸ .head _)
    exact (put_comm different).foldl groups
  | trans first _ ih ih' => exact (ih distinct).trans (ih' ((first.map Group.kind).nodup distinct))

theorem setup_of_same (same : Same g g') : g.setup = g'.setup := by
  obtain ⟨path, rate, limit, seed, held, switches⟩ := same
  unfold setup
  rw [path, rate, limit, seed, held]
  simp only [switches]

end Given

namespace CommandLine

def spell (groups : List Group) : List String := groups.flatMap Group.arguments

theorem spell_cons (a : Group) (groups : List Group) : spell (a :: groups) = a.arguments ++ spell groups := rfl

theorem spell_append (before after : List Group) : spell (before ++ after) = spell before ++ spell after :=
  List.flatMap_append

theorem parseOnto_option (g : Given) (o : OptionName) (value : Option String) (rest : List String) :
    parseOnto g (Argument.spelled o.name value :: rest) =
      match o, value with
      | .version, none => .ok .version
      | .help, none => .ok .help
      | .switch s, none => g.turnOn s >>= (parseOnto · rest)
      | .setting s, some text => g.set s text >>= (parseOnto · rest)
      | .setting s, none =>
        match rest with
        | [] => .error (.missingValue s.name)
        | text :: rest =>
          match Argument.ofText text with
          | .plain text => g.set s text >>= (parseOnto · rest)
          | _ => .error (.missingValue s.name)
      | o, some _ => .error (.needlessValue o.name) := by
  rw [parseOnto, OptionName.ofText_spelled_name]
  dsimp only
  rw [OptionName.ofName?_name]
  rcases o with s | s | _ | _ <;> cases value <;> rfl

theorem parseOnto_arguments {a : Group} (undashed : a.Undashed) (g : Given) (rest : List String) :
    parseOnto g (a.arguments ++ rest) = g.add a >>= (parseOnto · rest) := by
  rcases a with text | ⟨s, text, attached⟩ | s
  · rw [Group.arguments, List.singleton_append, parseOnto, Argument.ofText_plain undashed]
    rfl
  · cases attached with
    | true => exact parseOnto_option g (.setting s) (some text) rest
    | false =>
      refine (parseOnto_option g (.setting s) none (text :: rest)).trans ?_
      dsimp only
      rw [Argument.ofText_plain undashed]
      rfl
  · exact parseOnto_option g (.switch s) none rest

theorem parseOnto_groups {groups : List Group} (undashed : ∀ a ∈ groups, a.Undashed) (g : Given)
    (rest : List String) :
    parseOnto g (spell groups ++ rest) = groups.foldlM Given.add g >>= (parseOnto · rest) := by
  induction groups generalizing g with
  | nil => rfl
  | cons a groups ih =>
    obtain ⟨first, others⟩ := List.forall_mem_cons.mp undashed
    rw [spell_cons, List.append_assoc, parseOnto_arguments first, List.foldlM_cons]
    cases g.add a with
    | error e => rfl
    | ok g' => exact ih others g'

end CommandLine

end Chip8.Host
