import Chip8.Proofs.Arguments
import Mathlib.Data.List.Infix

namespace Chip8.Host

namespace CommandLine

def Refused (arguments : List String) : Prop :=
  ∀ read outside fuel, ∃ err, outcome arguments read outside fuel = some ⟨2, "", err⟩

theorem refused_of_error {arguments : List String} {e : UsageError} (failed : parse arguments = .error e) :
    Refused arguments := by
  intro read outside fuel
  refine ⟨e.outcome.err, ?_⟩
  rw [outcome, session, failed]
  rfl

theorem refused_or_added {groups : List Group} (undashed : ∀ a ∈ groups, a.Undashed) (rest : List String) :
    Refused (spell groups ++ rest) ∨
      ∃ g, groups.foldlM Given.add .nothing = .ok g ∧ parse (spell groups ++ rest) = parseOnto g rest := by
  have parsed := parseOnto_groups undashed .nothing rest
  cases added : groups.foldlM Given.add .nothing with
  | error e =>
    rw [added] at parsed
    exact .inl (refused_of_error parsed)
  | ok g =>
    rw [added] at parsed
    exact .inr ⟨g, rfl, parsed⟩

theorem refused_after {before : List Group} {rest : List String} (undashed : ∀ a ∈ before, a.Undashed)
    (refused : ∀ g, ∃ e, parseOnto g rest = .error e) : Refused (spell before ++ rest) := by
  rcases refused_or_added undashed rest with early | ⟨g, _, parsed⟩
  · exact early
  · obtain ⟨e, failed⟩ := refused g
    exact refused_of_error (parsed.trans failed)

theorem refused_of_repeated {groups : List Group} (undashed : ∀ a ∈ groups, a.Undashed)
    (repeated : ¬(groups.map Group.kind).Nodup) : Refused (spell groups) := by
  rw [← List.append_nil (spell groups)]
  rcases refused_or_added undashed [] with refused | ⟨g, added, _⟩
  · exact refused
  · exact absurd (Given.foldlM_add_eq_ok_iff.mp added).2.1 repeated

theorem path_foldl_put {groups : List Group} (pathless : ∀ a ∈ groups, a.kind ≠ .path) (g : Given) :
    (groups.foldl Given.put g).path = g.path := by
  induction groups generalizing g with
  | nil => rfl
  | cons a groups ih =>
    obtain ⟨first, others⟩ := List.forall_mem_cons.mp pathless
    refine (ih others (g.put a)).trans ?_
    rcases a with text | ⟨s, text, attached⟩ | s
    · exact absurd rfl first
    · cases s <;> rfl
    · rfl

theorem refused_of_pathless {groups : List Group} (undashed : ∀ a ∈ groups, a.Undashed)
    (pathless : ∀ a ∈ groups, a.kind ≠ .path) : Refused (spell groups) := by
  rw [← List.append_nil (spell groups)]
  rcases refused_or_added undashed [] with refused | ⟨g, added, parsed⟩
  · exact refused
  · obtain ⟨_, _, _, rfl⟩ := Given.foldlM_add_eq_ok_iff.mp added
    have absent := path_foldl_put pathless .nothing
    refine refused_of_error (e := .missingPath) (parsed.trans ?_)
    show finish (groups.foldl Given.put .nothing) = .error .missingPath
    rw [finish, Given.setup, absent]
    rfl

theorem parseOnto_unknown {name : String} (named : name ≠ "") (plain : '=' ∉ name.toList)
    (unknown : OptionName.ofName? name = none) (g : Given) (value : Option String) (rest : List String) :
    ∃ e, parseOnto g (Argument.spelled name value :: rest) = .error e := by
  rw [parseOnto, Argument.ofText_spelled named plain]
  dsimp only
  rw [unknown]
  exact ⟨_, rfl⟩

theorem unknown_of_abbreviation {o : OptionName} {short : String} (named : short ≠ "") (other : short ≠ o.name)
    (front : short.toList <+: o.name.toList) : OptionName.ofName? short = none ∧ '=' ∉ short.toList := by
  have unknown : ∀ o ∈ OptionName.all, ∀ front ∈ o.name.toList.inits, front ≠ [] → front ≠ o.name.toList →
      OptionName.ofName? (String.ofList front) = none ∧ '=' ∉ front := by decide +kernel
  have listed := List.mem_of_find?_eq_some (OptionName.ofName?_name o)
  have found := unknown o listed short.toList ((List.mem_inits _ _).mpr front)
    (fun empty => named (String.toList_eq_nil_iff.mp empty)) (fun same => other (String.toList_inj.mp same))
  rwa [String.ofList_toList] at found

theorem parseOnto_no_number {s : Setting} (numeric : s ≠ .held) {text : String}
    (other : ∀ n : Text.Numeral, n.text ≠ text) (attached : Bool) (g : Given) (rest : List String) :
    ∃ e, parseOnto g ((Group.setting s text attached).arguments ++ rest) = .error e := by
  have invalid : ¬(Group.setting s text attached).Valid := by
    cases s with
    | held => exact absurd rfl numeric
    | rate | limit | seed => exact fun ⟨n, spelled⟩ => other n spelled
  have unset : ∃ e, g.set s text = .error e := by
    cases added : g.set s text with
    | error e => exact ⟨e, rfl⟩
    | ok g' => exact absurd (Given.add_eq_ok_iff (a := .setting s text attached).mp added).2.1 invalid
  obtain ⟨e, failed⟩ := unset
  cases attached with
  | true =>
    refine ⟨e, (parseOnto_option g (.setting s) (some text) rest).trans ?_⟩
    dsimp only
    rw [failed]
    rfl
  | false =>
    have parsed := parseOnto_option g (.setting s) none (text :: rest)
    dsimp only at parsed
    cases read : Argument.ofText text with
    | plain text' =>
      obtain rfl := Argument.eq_of_ofText_eq_plain read
      rw [read] at parsed
      dsimp only at parsed
      rw [failed] at parsed
      exact ⟨e, parsed⟩
    | _ =>
      rw [read] at parsed
      exact ⟨_, parsed⟩

/-- A way to spell a setup: for each option whether it is given, with what, and whether this is attached. Neither the
    path nor the keys could be taken for an option. -/
structure Wording where
  path : String
  named : path ≠ ""
  path_undashed : path.toList.head? ≠ some '-'
  rate : Option (Text.Numeral × Bool)
  limit : Option (Text.Numeral × Bool)
  seed : Option (Text.Numeral × Bool)
  held : Option (String × Bool)
  held_undashed : ∀ given ∈ held, given.1.toList.head? ≠ some '-'
  switches : Switch → Bool

namespace Wording

def numbers (s : Setting) (number : Option (Text.Numeral × Bool)) : List Group :=
  number.toList.map fun (n, attached) => .setting s n.text attached

def options (w : Wording) : List Group :=
  numbers .rate w.rate ++ numbers .limit w.limit ++ numbers .seed w.seed ++
    (w.held.toList.map fun (text, attached) => .setting .held text attached) ++
    (Switch.all.filter w.switches).map .switch

def groups (w : Wording) : List Group := .path w.path :: w.options

def setup (w : Wording) : Setup where
  path := w.path
  pace := ⟨(w.rate.map (·.1.value)).getD 500, w.limit.map (·.1.value)⟩
  seed := w.seed.map (·.1.value)
  dialect := ⟨w.switches .indexOverflow, w.switches .reverseSubtract⟩
  held := (w.held.map (·.1)).getD ""
  throttled := !w.switches .unthrottled

variable (w : Wording)

theorem numbers_spelled {s : Setting} {number : Option (Text.Numeral × Bool)} {a : Group}
    (member : a ∈ numbers s number) : a.Undashed ∧ a.Valid ∧ a.kind = .setting s := by
  obtain ⟨⟨n, attached⟩, _, rfl⟩ := List.mem_map.mp member
  refine ⟨?_, ?_, rfl⟩
  · cases attached with
    | true => trivial
    | false => exact n.head_text_ne_dash
  · cases s with
    | held => trivial
    | rate | limit | seed => exact ⟨n, rfl⟩

theorem options_spelled {a : Group} (member : a ∈ w.options) : a.Undashed ∧ a.Valid ∧ a.kind ≠ .path := by
  have number {s : Setting} {number : Option (Text.Numeral × Bool)} (member : a ∈ numbers s number) :
      a.Undashed ∧ a.Valid ∧ a.kind ≠ .path := by
    obtain ⟨undashed, valid, kind⟩ := numbers_spelled member
    exact ⟨undashed, valid, by simp [kind]⟩
  simp only [options, List.mem_append, or_assoc] at member
  rcases member with rate | limit | seed | held | switch
  · exact number rate
  · exact number limit
  · exact number seed
  · obtain ⟨⟨text, attached⟩, given, rfl⟩ := List.mem_map.mp held
    refine ⟨?_, trivial, nofun⟩
    cases attached with
    | true => trivial
    | false => exact w.held_undashed _ (Option.mem_toList.mp given)
  · obtain ⟨s, _, rfl⟩ := List.mem_map.mp switch
    exact ⟨trivial, trivial, nofun⟩

theorem groups_spelled {a : Group} (member : a ∈ w.groups) : a.Undashed ∧ a.Valid := by
  rcases List.mem_cons.mp member with rfl | option
  · exact ⟨w.path_undashed, w.named⟩
  · obtain ⟨undashed, valid, _⟩ := w.options_spelled option
    exact ⟨undashed, valid⟩

theorem distinct : (w.groups.map Group.kind).Nodup := by
  have number (s : Setting) (number : Option (Text.Numeral × Bool)) :
      ((numbers s number).map Group.kind).Sublist [.setting s] := by
    cases number <;> simp [numbers, Group.kind]
  have held : ((w.held.toList.map fun (text, attached) => Group.setting .held text attached).map
      Group.kind).Sublist [.setting .held] := by
    cases w.held <;> simp [Group.kind]
  have switches : (((Switch.all.filter w.switches).map Group.switch).map Group.kind).Sublist
      (Switch.all.map Kind.switch) := by
    rw [List.map_map]
    exact List.filter_sublist.map Kind.switch
  have all := (((((number .rate w.rate).append (number .limit w.limit)).append (number .seed w.seed)).append
    held).append switches).cons_cons Kind.path
  rw [groups, List.map_cons, options]
  simp only [List.map_append]
  exact all.nodup (by decide)

theorem setup_groups : (w.groups.foldl Given.put .nothing).setup = .ok w.setup := by
  obtain ⟨path, _, _, rate, limit, seed, held, _, switches⟩ := w
  have put (l : List Switch) (g : Given) :
      (l.map Group.switch).foldl Given.put g = { g with switches := l.reverse ++ g.switches } := by
    induction l generalizing g with
    | nil => rfl
    | cons s l ih => simp [ih, Given.put]
  have read (n : Text.Numeral) : Text.uint64? n.text.toList = some n.value :=
    Text.uint64?_eq_some_iff.mpr ⟨n, rfl, rfl⟩
  have default : UInt64.ofNat Layout.defaultRate = 500 := rfl
  rw [groups, List.foldl_cons, options, List.foldl_append, put]
  rcases rate with _ | ⟨n₁, _⟩ <;> rcases limit with _ | ⟨n₂, _⟩ <;> rcases seed with _ | ⟨n₃, _⟩ <;>
    rcases held with _ | ⟨text, _⟩ <;>
      simp [numbers, Given.put, Given.nothing, read, setup, Given.setup, default, Switch.all]

variable {w}

theorem parse_of_perm {groups : List Group} (order : groups.Perm w.groups) :
    parse (spell groups) = .ok (.session w.setup) := by
  have spelled (a : Group) (member : a ∈ groups) := w.groups_spelled (order.subset member)
  have distinct : (groups.map Group.kind).Nodup := (order.map Group.kind).nodup_iff.mpr w.distinct
  have free : ∀ a ∈ groups, Given.nothing.holds a.kind = false := by
    intro a _
    cases a.kind with
    | setting s => cases s <;> rfl
    | _ => rfl
  have added := Given.foldlM_add_eq_ok_iff.mpr ⟨free, distinct, fun a member => (spelled a member).2, rfl⟩
  have parsed := parseOnto_groups (fun a member => (spelled a member).1) .nothing []
  rw [List.append_nil, added] at parsed
  refine parsed.trans ?_
  show finish (groups.foldl Given.put .nothing) = _
  rw [finish, Given.setup_of_same (Given.foldl_put_of_perm order distinct), w.setup_groups]
  rfl

theorem repeated_of_perm {before after : List Group} {extra : Group} (order : (before ++ after).Perm w.groups)
    (again : extra.kind ∈ w.groups.map Group.kind) : ¬((before ++ extra :: after).map Group.kind).Nodup := by
  intro distinct
  have front := (List.perm_middle.map Group.kind).nodup_iff.mp distinct
  rw [List.map_cons, List.nodup_cons] at front
  exact front.1 ((order.map Group.kind).mem_iff.mpr again)

end Wording

theorem command_line_denotes_setup (w : Wording) :
    (∀ groups : List Group, groups.Perm w.groups → parse (spell groups) = .ok (.session w.setup) ∧
      ∀ read outside fuel,
        outcome (spell groups) read outside fuel =
          (Session.run w.setup (read w.path) outside fuel).map Report.outcome ∧
        ∀ report, Session.run w.setup (read w.path) outside fuel = some report →
          (∀ why, report.result = .ok why →
            outcome (spell groups) read outside fuel = some ⟨0, report.printed, ""⟩) ∧
          ∀ failure, report.result = .error failure →
            outcome (spell groups) read outside fuel = some ⟨1, report.printed, failure.text⟩) ∧
    (∀ before after extra, (before ++ after).Perm w.groups → extra.Undashed →
      extra.kind ∈ w.groups.map Group.kind → Refused (spell (before ++ extra :: after))) ∧
    (∀ groups : List Group, groups.Perm w.options → Refused (spell groups)) ∧
    ∀ before : List Group, (∀ a ∈ before, a.Undashed) → ∀ rest : List String,
      (∀ (s : Switch) value, Refused (spell before ++ Argument.spelled s.name (some value) :: rest)) ∧
      (∀ (o : OptionName) short value, short ≠ "" → short ≠ o.name → short.toList <+: o.name.toList →
        Refused (spell before ++ Argument.spelled short value :: rest)) ∧
      ∀ (s : Setting) text attached, s ≠ .held → (∀ n : Text.Numeral, n.text ≠ text) →
        Refused (spell before ++ ((Group.setting s text attached).arguments ++ rest)) := by
  refine ⟨?_, ?_, ?_, ?_⟩
  · intro groups order
    have parsed : parse (spell groups) = .ok (.session w.setup) := Wording.parse_of_perm order
    refine ⟨parsed, fun read outside fuel => ?_⟩
    have left : outcome (spell groups) read outside fuel =
        (Session.run w.setup (read w.path) outside fuel).map Report.outcome := by
      rw [outcome, session, parsed]
      rfl
    refine ⟨left, fun report ended => ⟨fun why succeeded => ?_, fun failure failed => ?_⟩⟩
    · rw [left, ended, Option.map_some, Report.outcome, succeeded]
    · rw [left, ended, Option.map_some, Report.outcome, failed]
  · intro before after extra order undashed again
    apply refused_of_repeated
    · intro a member
      rcases List.mem_cons.mp (List.perm_middle.subset member) with rfl | given
      · exact undashed
      · exact (w.groups_spelled (order.subset given)).1
    · exact Wording.repeated_of_perm order again
  · intro groups order
    apply refused_of_pathless
    · exact fun a member => (w.options_spelled (order.subset member)).1
    · exact fun a member => (w.options_spelled (order.subset member)).2.2
  · intro before undashed rest
    refine ⟨?_, ?_, ?_⟩
    · intro s value
      exact refused_after undashed fun g => ⟨_, parseOnto_option g (.switch s) (some value) rest⟩
    · intro o short value named other front
      obtain ⟨unknown, plain⟩ := unknown_of_abbreviation named other front
      exact refused_after undashed fun g => parseOnto_unknown named plain unknown g value rest
    · intro s text attached numeric other
      exact refused_after undashed fun g => parseOnto_no_number numeric other attached g rest

def sampleWording : Wording where
  path := "game"
  named := by decide
  path_undashed := by decide
  rate := some (⟨60, true, 1⟩, true)
  limit := none
  seed := some (⟨7, false, 0⟩, false)
  held := some ("qe", false)
  held_undashed := by decide
  switches s := s = .unthrottled

def sampleGroups : List Group :=
  [.switch .unthrottled, .setting .seed "7" false, .path "game", .setting .held "qe" false,
    .setting .rate "+060" true]

theorem command_line_denotes_setup_sample :
    let arguments := ["--unthrottled", "--seed", "7", "game", "--hold", "qe", "--hz=+060"]
    parse arguments = .ok (.session ⟨"game", ⟨60, none⟩, some 7, Dialect.standard, "qe", false⟩) ∧
    Refused (arguments ++ ["other"]) ∧ Refused (arguments ++ ["--unthrottled"]) ∧
    Refused (arguments ++ ["--unthrottled=yes"]) ∧ Refused (arguments ++ ["--se=7"]) ∧
    Refused ["--hz", "-1", "game"] := by
  intro arguments
  have order : sampleGroups.Perm sampleWording.groups := by decide +kernel
  have order' : (sampleGroups ++ []).Perm sampleWording.groups := by rwa [List.append_nil]
  have spelled : spell sampleGroups = arguments := by decide +kernel
  have undashed : ∀ a ∈ sampleGroups, a.Undashed := fun a member =>
    (sampleWording.groups_spelled (order.subset member)).1
  have number : ∀ n : Text.Numeral, n.text ≠ "-1" := fun n same => n.head_text_ne_dash (by rw [same]; decide)
  obtain ⟨reads, again, _, offends⟩ := command_line_denotes_setup sampleWording
  obtain ⟨needless, abbreviated, _⟩ := offends sampleGroups undashed []
  obtain ⟨_, _, unread⟩ := offends [] nofun ["game"]
  have path := again sampleGroups [] (.path "other") order' (by decide) (by decide +kernel)
  have switch := again sampleGroups [] (.switch .unthrottled) order' (by decide) (by decide +kernel)
  rw [spell_append, spelled] at path switch
  rw [spelled] at needless abbreviated
  refine ⟨?_, path, switch, ?_, ?_, unread .rate "-1" false (by decide) number⟩
  · rw [← spelled]
    exact (reads sampleGroups order).1
  · exact needless .unthrottled "yes"
  · exact abbreviated (.setting .seed) "se" (some "7") (by decide) (by decide) (by decide +kernel)

end CommandLine

end Chip8.Host
