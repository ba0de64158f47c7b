import BulkWrite.Failure.RulesText
import BulkWrite.Proofs.Registration
import Mathlib.Data.List.Induction

/-!
Rules under changes. A change names one list and leaves the others alone, so
each list follows from the changes that name it: it has the items of the last
one that replaces them, or else its first items, and behind these what later
changes add.
-/

namespace BulkWrite.Rules

/-! The lists of rules and the changes of them by field, with items of one
type. -/

inductive Item where
  | text (text : String)
  | code (code : Int64)

def Field.isSet : Field → Bool
  | .connectionCodes | .transientCodes => true
  | _ => false

def items (rules : Rules) : Field → List Item
  | .connectionStatePrefixes => rules.connectionStatePrefixes.map .text
  | .connectionCodes => rules.connectionCodes.codes.map .code
  | .connectionMessages => rules.connectionMessages.map .text
  | .transientStates => rules.transientStates.map .text
  | .transientCodes => rules.transientCodes.codes.map .code
  | .transientMessages => rules.transientMessages.map .text

theorem eq_of_items_eq {rules other : Rules}
    (same : ∀ field, rules.items field = other.items field) :
    rules = other := by
  have texts {list others : List String}
      (listed : list.map Item.text = others.map Item.text) :
      list = others :=
    List.map_injective_iff.mpr (fun _ _ => Item.text.inj) listed
  have codes {set others : CodeSet}
      (listed : set.codes.map Item.code = others.codes.map Item.code) :
      set = others := by
    obtain ⟨codes, ascending⟩ := set
    obtain rfl := List.map_injective_iff.mpr (fun _ _ => Item.code.inj) listed
    rfl
  obtain ⟨prefixes, connectionCodes, connectionMessages, states, transientCodes,
    transientMessages⟩ := rules
  obtain rfl := texts (same .connectionStatePrefixes)
  obtain rfl := codes (same .connectionCodes)
  obtain rfl := texts (same .connectionMessages)
  obtain rfl := texts (same .transientStates)
  obtain rfl := codes (same .transientCodes)
  obtain rfl := texts (same .transientMessages)
  rfl

namespace Change

/-- The list that the change names. -/
def field : Change → Field
  | .setConnectionStatePrefixes _ => .connectionStatePrefixes
  | .setConnectionCodes _ => .connectionCodes
  | .setConnectionMessages _ | .extendConnectionMessages _ =>
      .connectionMessages
  | .setTransientStates _ => .transientStates
  | .setTransientCodes _ => .transientCodes
  | .setTransientMessages _ | .extendTransientMessages _ => .transientMessages

/-- The change keeps the items that are there. -/
def adds : Change → Bool
  | .extendConnectionMessages _ | .extendTransientMessages _ => true
  | _ => false

def items : Change → List Item
  | .setConnectionStatePrefixes texts | .setConnectionMessages texts
  | .extendConnectionMessages texts | .setTransientStates texts
  | .setTransientMessages texts | .extendTransientMessages texts =>
      texts.map .text
  | .setConnectionCodes codes | .setTransientCodes codes => codes.map .code

def after (items : List Item) (change : Change) : List Item :=
  if change.adds then items ++ change.items else change.items

end Change

/-! What a change does to the list that it names, and to no other. -/

theorem items_apply_of_ne (rules : Rules) {change : Change} {field : Field}
    (other : change.field ≠ field) :
    (rules.apply change).items field = rules.items field := by
  cases change <;> cases field <;> first | rfl | exact absurd rfl other

theorem items_apply_congr {rules other : Rules} {change : Change}
    (same : rules.items change.field = other.items change.field) :
    (rules.apply change).items change.field =
      (other.apply change).items change.field := by
  have extended (texts : List String) {list others : List String}
      (listed : list.map Item.text = others.map Item.text) :
      (list ++ texts).map Item.text = (others ++ texts).map Item.text := by
    rw [List.map_append, listed, List.map_append]
  cases change with
  | extendConnectionMessages phrases => exact extended phrases same
  | extendTransientMessages phrases => exact extended phrases same
  | _ => rfl

/-- Sets have the same members, all other lists the same items in the same
order. -/
structure Agree (field : Field) (items others : List Item) : Prop where
  members : ∀ item, item ∈ items ↔ item ∈ others
  inOrder : field.isSet = false → items = others

theorem Agree.of_eq {field : Field} {items others : List Item}
    (same : items = others) :
    Agree field items others where
  members _ := by rw [same]
  inOrder _ := same

theorem Agree.trans {field : Field} {items others last : List Item}
    (first : Agree field items others) (second : Agree field others last) :
    Agree field items last where
  members item := (first.members item).trans (second.members item)
  inOrder ordered := (first.inOrder ordered).trans (second.inOrder ordered)

theorem Agree.after {field : Field} {items others : List Item}
    (agree : Agree field items others) (change : Change) :
    Agree field (change.after items) (change.after others) := by
  unfold Change.after
  split
  next =>
    refine ⟨fun item => ?_, fun ordered => by rw [agree.inOrder ordered]⟩
    rw [List.mem_append, List.mem_append, agree.members]
  next => exact .of_eq rfl

theorem agree_ofList {field : Field} (set : field.isSet = true)
    (codes : List Int64) :
    Agree field ((CodeSet.ofList codes).codes.map .code) (codes.map .code) where
  members item := by
    simp only [List.mem_map, CodeSet.mem_ofList]
  inOrder ordered := absurd (set.symm.trans ordered) (by decide)

theorem agree_items_apply (rules : Rules) (change : Change) :
    Agree change.field ((rules.apply change).items change.field)
      (change.after (rules.items change.field)) := by
  cases change with
  | setConnectionCodes codes => exact agree_ofList rfl codes
  | setTransientCodes codes => exact agree_ofList rfl codes
  | extendConnectionMessages phrases => exact .of_eq (List.map_append)
  | extendTransientMessages phrases => exact .of_eq (List.map_append)
  | _ => exact .of_eq rfl

/-! Changes in a row do to a list what those that name it do. -/

def naming (field : Field) (changes : List Change) : List Change :=
  changes.filter fun change => change.field = field

theorem naming_append (field : Field) (first second : List Change) :
    naming field (first ++ second) =
      naming field first ++ naming field second :=
  List.filter_append first second

theorem naming_singleton_self (change : Change) :
    naming change.field [change] = [change] :=
  List.filter_cons_of_pos (decide_eq_true rfl)

theorem naming_of_forall_ne {field : Field} {changes : List Change}
    (others : ∀ change ∈ changes, change.field ≠ field) :
    naming field changes = [] := by
  apply List.filter_eq_nil_iff.mpr
  intro change member named
  exact others change member (of_decide_eq_true named)

theorem naming_singleton_of_ne {field : Field} {change : Change}
    (other : change.field ≠ field) :
    naming field [change] = [] :=
  naming_of_forall_ne (List.forall_mem_singleton.mpr other)

theorem applyAll_append_singleton (rules : Rules) (changes : List Change)
    (change : Change) :
    rules.applyAll (changes ++ [change]) =
      (rules.applyAll changes).apply change :=
  List.foldl_concat _ _ _ _

theorem items_applyAll_naming (rules : Rules) (changes : List Change)
    (field : Field) :
    (rules.applyAll changes).items field =
      (rules.applyAll (naming field changes)).items field := by
  induction changes using List.reverseRecOn with
  | nil => rfl
  | append_singleton changes change ih =>
      rw [applyAll_append_singleton, naming_append]
      by_cases named : change.field = field
      · subst named
        rw [naming_singleton_self, applyAll_append_singleton]
        exact items_apply_congr ih
      · rw [naming_singleton_of_ne named, List.append_nil,
          items_apply_of_ne _ named]
        exact ih

theorem items_applyAll_congr {rules other : Rules} {field : Field}
    (same : rules.items field = other.items field) (changes : List Change) :
    (rules.applyAll changes).items field =
      (other.applyAll changes).items field := by
  induction changes using List.reverseRecOn with
  | nil => exact same
  | append_singleton changes change ih =>
      rw [applyAll_append_singleton, applyAll_append_singleton]
      by_cases named : change.field = field
      · subst named
        exact items_apply_congr ih
      · rw [items_apply_of_ne _ named, items_apply_of_ne _ named]
        exact ih

/-- Of rules and changes only the list itself and the changes that name it
matter to it. -/
theorem items_applyAll_eq {rules other : Rules} {changes others : List Change}
    {field : Field} (same : rules.items field = other.items field)
    (named : naming field changes = naming field others) :
    (rules.applyAll changes).items field =
      (other.applyAll others).items field := by
  rw [items_applyAll_naming, named, ← items_applyAll_naming]
  exact items_applyAll_congr same others

theorem agree_items_applyAll (rules : Rules) (changes : List Change)
    (field : Field) :
    Agree field ((rules.applyAll changes).items field)
      ((naming field changes).foldl Change.after (rules.items field)) := by
  induction changes using List.reverseRecOn with
  | nil => exact .of_eq rfl
  | append_singleton changes change ih =>
      rw [applyAll_append_singleton, naming_append, List.foldl_append]
      by_cases named : change.field = field
      · subst named
        rw [naming_singleton_self]
        exact (agree_items_apply _ change).trans (ih.after change)
      · rw [naming_singleton_of_ne named, items_apply_of_ne _ named]
        exact ih

/-- The items of the last change that does not keep those before it, or the
first items where there is none, and behind them what is added later. -/
inductive Gathered (start : List Item) : List Change → List Item → Prop where
  | fromStart {changes : List Change}
      (add : ∀ change ∈ changes, change.adds = true) :
      Gathered start changes (start ++ changes.flatMap Change.items)
  | fromLast (earlier : List Change) {last : Change} {later : List Change}
      (replaces : last.adds = false)
      (add : ∀ change ∈ later, change.adds = true) :
      Gathered start (earlier ++ last :: later)
        (last.items ++ later.flatMap Change.items)

theorem foldl_after_of_adds {changes : List Change}
    (add : ∀ change ∈ changes, change.adds = true) (items : List Item) :
    changes.foldl Change.after items =
      items ++ changes.flatMap Change.items := by
  induction changes generalizing items with
  | nil => exact (List.append_nil items).symm
  | cons change changes ih =>
      rw [List.forall_mem_cons] at add
      rw [List.foldl_cons, ih add.2, Change.after, if_pos add.1,
        List.flatMap_cons, List.append_assoc]

section

variable {start items : List Item} {changes : List Change}

theorem Gathered.eq_foldl (gathered : Gathered start changes items) :
    items = changes.foldl Change.after start := by
  cases gathered with
  | fromStart add => rw [foldl_after_of_adds add]
  | fromLast earlier replaces add =>
      rw [List.foldl_append, List.foldl_cons, foldl_after_of_adds add,
        Change.after, if_neg (ne_true_of_eq_false replaces)]

theorem Gathered.after (gathered : Gathered start changes items)
    (change : Change) :
    Gathered start (changes ++ [change]) (change.after items) := by
  rw [Change.after]
  split
  next adds =>
    have further {later : List Change}
        (add : ∀ other ∈ later, other.adds = true) :
        ∀ other ∈ later ++ [change], other.adds = true :=
      List.forall_mem_append.mpr ⟨add, List.forall_mem_singleton.mpr adds⟩
    cases gathered with
    | fromStart add =>
        have more : Gathered start (changes ++ [change]) _ :=
          .fromStart (further add)
        simpa using more
    | @fromLast earlier last later replaces add =>
        have more : Gathered start (earlier ++ last :: (later ++ [change])) _ :=
          .fromLast earlier replaces (further add)
        simpa using more
  next replaces =>
    have fresh : Gathered start (changes ++ [change]) _ :=
      .fromLast changes (Bool.eq_false_of_not_eq_true replaces) nofun
    simpa using fresh

theorem exists_gathered (start : List Item) (changes : List Change) :
    ∃ items, Gathered start changes items := by
  induction changes using List.reverseRecOn with
  | nil => exact ⟨_, .fromStart nofun⟩
  | append_singleton changes change ih =>
      obtain ⟨items, gathered⟩ := ih
      exact ⟨_, gathered.after change⟩

end

theorem naming_swap {first second : Change} {between : List Change}
    (different : first.field ≠ second.field)
    (apart : ∀ change ∈ between, change.field ≠ first.field ∧
      change.field ≠ second.field)
    (before after : List Change) (field : Field) :
    naming field (before ++ second :: (between ++ first :: after)) =
      naming field (before ++ first :: (between ++ second :: after)) := by
  have split (one other : Change) :
      naming field (before ++ one :: (between ++ other :: after)) =
      naming field before ++ (naming field [one] ++
        (naming field between ++
            (naming field [other] ++ naming field after))) := by
    simp only [← naming_append, List.singleton_append]
  rw [split, split]
  by_cases isFirst : first.field = field
  · subst isFirst
    rw [naming_singleton_of_ne different.symm,
      naming_of_forall_ne fun c member => (apart c member).1]
    rfl
  · rw [naming_singleton_of_ne isFirst]
    by_cases isSecond : second.field = field
    · subst isSecond
      rw [naming_of_forall_ne fun c member => (apart c member).2]
      rfl
    · rw [naming_singleton_of_ne isSecond]

/-- Each list has what the changes that name it gather, a set of codes in
whatever order, and nothing else counts for it. So two changes of different
lists can be swapped wherever they stand, with no change of either list between
them, and rules and verdicts stay the same. -/
theorem lists_follow_changes_that_name_them (rules : Rules)
    (changes : List Change) :
    (∀ field, (∃ items,
      Gathered (rules.items field) (naming field changes) items) ∧
      ∀ items, Gathered (rules.items field) (naming field changes) items →
        Agree field ((rules.applyAll changes).items field) items) ∧
    (∀ field (other : Rules) others, rules.items field = other.items field →
      naming field changes = naming field others →
        (rules.applyAll changes).items field =
          (other.applyAll others).items field) ∧
    ∀ before first between second after,
      changes = before ++ first :: (between ++ second :: after) →
        first.field ≠ second.field →
        (∀ change ∈ between, change.field ≠ first.field ∧
          change.field ≠ second.field) →
          let swapped :=
            rules.applyAll (before ++ second :: (between ++ first :: after))
          swapped = rules.applyAll changes ∧
            ∀ (kinds : List ErrorKind) {ε : Type} [Traceable ε] (error : ε),
              ((Classifier.ofRules swapped).registerAll kinds).classifyLogged
                  error =
                ((Classifier.ofRules (rules.applyAll changes)).registerAll
                  kinds).classifyLogged error := by
  refine ⟨fun field => ⟨exists_gathered _ _, ?_⟩, ?_, ?_⟩
  · intro items gathered
    rw [gathered.eq_foldl]
    exact agree_items_applyAll rules changes field
  · intro field other others same named
    exact items_applyAll_eq same named
  · intro before first between second after joined different apart swapped
    have same : swapped = rules.applyAll changes := by
      apply eq_of_items_eq
      intro field
      rw [joined]
      exact items_applyAll_eq rfl
        (naming_swap different apart before after field)
    refine ⟨same, ?_⟩
    intro kinds ε _ error
    rw [same]

/-- Phrases that are replaced and then added to, with other lists set in
between. -/
theorem lists_follow_changes_that_name_them_across_others :
    let phrases : Change := .setTransientMessages ["busy"]
    let states : Change := .setTransientStates []
    let codes : Change := .setConnectionCodes [7, -1, 7]
    let more : Change := .extendTransientMessages ["locked", "busy"]
    let dropped : Change := .extendTransientMessages ["deadlock"]
    let changes := [dropped, phrases, states, codes, more]
    (default.applyAll changes).transientMessages = ["busy", "locked", "busy"] ∧
      (default.applyAll changes).connectionCodes.codes = [-1, 7] ∧
        default.applyAll [dropped, codes, states, phrases, more] =
          default.applyAll changes := by
  intro phrases states codes more dropped changes
  obtain ⟨follow, -, swap⟩ :=
    lists_follow_changes_that_name_them default changes
  have gathered : Gathered (default.items .transientMessages)
      (naming .transientMessages changes)
      (phrases.items ++ [more].flatMap Change.items) :=
    .fromLast [dropped] rfl (List.forall_mem_singleton.mpr rfl)
  have texts := ((follow .transientMessages).2 _ gathered).inOrder rfl
  refine ⟨?_, by decide,
    (swap [dropped] phrases [states] codes [more] rfl (by decide) ?_).1⟩
  · exact List.map_injective_iff.mpr (fun _ _ => Item.text.inj) texts
  · exact List.forall_mem_singleton.mpr ⟨by decide, by decide⟩

/-- Two changes of different lists are not swapped across another change of one
of the lists. -/
theorem swapped_across_change_of_same_list :
    let first : Change := .setTransientStates ["40001"]
    let between : Change := .setTransientStates ["40P01"]
    let second : Change := .setTransientCodes [1213]
    let failure := Failure.root ⟨.driver, "", { sqlState := some "40P01" }⟩
    let verdict (rules : Rules) :=
      (Classifier.ofRules rules).classify failure
    let rules := default.applyAll [first, between, second]
    let swapped := default.applyAll [second, between, first]
    first.field ≠ second.field ∧
      rules.transientStates = ["40P01"] ∧
      swapped.transientStates = ["40001"] ∧
      verdict rules = .transient 0 .transientState ∧
      verdict swapped = .fatal := by
  decide +kernel

end BulkWrite.Rules
