import LaneScope.Proofs.Coord.Spelling

/-!
Parsing coordinates.  Main statement: the parser accepts the texts that spell a list of items on different axes and
gives the coordinate with exactly these contents; where an axis comes twice it names the first that does, and it
refuses all other texts.
-/

namespace LaneScope

variable {text rest : List Char} {item : Item} {items : List Item}

theorem SpellsItem.exists_cons (spelled : SpellsItem text item) :
    ∃ first tail, text = first :: tail ∧ isBlank first = false ∧ first ≠ '.' := by
  obtain ⟨tail, rfl⟩ := spelled.exists_name
  cases item.axis <;> exact ⟨_, _, rfl, by decide, by decide⟩

namespace Separates

theorem exists_cons (separates : Separates text) : ∃ first tail, text = first :: tail ∧ first.isDigit = false := by
  have head_not_digit {first : Char} {tail : List Char} (blank : AllBlank (first :: tail)) : first.isDigit = false := by
    rcases blank first List.mem_cons_self with rfl | rfl <;> rfl
  cases separates with
  | @dot before after blank =>
      cases before with
      | nil => exact ⟨'.', after, rfl, rfl⟩
      | cons first tail => exact ⟨first, _, rfl, head_not_digit blank⟩
  | blanks blank nonempty =>
      cases text with
      | nil => exact (nonempty rfl).elim
      | cons first tail => exact ⟨first, tail, rfl, head_not_digit blank⟩

theorem readSeparator_append (separates : Separates text) {first : Char} (solid : isBlank first = false)
    (noDot : first ≠ '.') (rest : List Char) : readSeparator (text ++ first :: rest) = some (first :: rest) := by
  have stops := stopsAt_cons solid rest
  cases separates with
  | @dot before after blankBefore blankAfter =>
      have skipped : skipBlanks (before ++ '.' :: after ++ first :: rest) = '.' :: (after ++ first :: rest) := by
        rw [List.append_assoc, List.cons_append]
        exact skipBlanks_append blankBefore (stopsAt_cons rfl _)
      simp only [readSeparator, skipped, skipBlanks_append blankAfter stops]
  | blanks blank nonempty =>
      have shorter : (first :: rest).length < (text ++ first :: rest).length := by
        have := List.length_pos_iff.mpr nonempty
        simp only [List.length_append, List.length_cons]
        omega
      simp only [readSeparator, skipBlanks_append blank stops]
      split
      · rename_i dotted
        exact (noDot (List.cons.inj dotted).1).elim
      · rw [if_pos shorter]

theorem of_readSeparator (found : readSeparator text = some rest) :
    ∃ separator, text = separator ++ rest ∧ Separates separator := by
  obtain ⟨before, blankBefore, split⟩ := exists_blanks text
  simp only [readSeparator] at found
  split at found
  · rename_i afterDot dot
    obtain ⟨after, blankAfter, splitAfter⟩ := exists_blanks afterDot
    obtain rfl := Option.some.inj found
    refine ⟨before ++ '.' :: after, ?_, .dot blankBefore blankAfter⟩
    rw [split, dot, List.append_assoc, List.cons_append, ← splitAfter]
  · simp only [Option.ite_none_right_eq_some, Option.some.injEq] at found
    obtain ⟨shorter, rfl⟩ := found
    refine ⟨before, split, .blanks blankBefore ?_⟩
    rintro rfl
    rw [← List.nil_append (skipBlanks text), ← split] at shorter
    omega

end Separates

theorem readMoreItems_of_read {afterSeparator : List Char} (separated : readSeparator text = some afterSeparator)
    (found : Item.read afterSeparator = some (item, rest)) :
    readMoreItems text = (item :: (readMoreItems rest).1, (readMoreItems rest).2) := by
  rw [readMoreItems]
  split
  · rename_i none
    simp [separated] at none
  · rename_i after separatedAfter
    obtain rfl : afterSeparator = after := Option.some.inj (separated.symm.trans separatedAfter)
    split
    · rename_i none
      simp [found] at none
    · rename_i other otherRest foundOther
      obtain ⟨rfl, rfl⟩ := Prod.mk.inj (Option.some.inj (found.symm.trans foundOther))
      rfl

/-- A separator without an item behind it is given back. -/
theorem readMoreItems_of_not_read
    (none : ∀ afterSeparator, readSeparator text = some afterSeparator → Item.read afterSeparator = none) :
    readMoreItems text = ([], text) := by
  rw [readMoreItems]
  split
  · rfl
  · rename_i after separated
    split
    · rfl
    · rename_i found
      simp [none after separated] at found

theorem spells_readMoreItems (text : List Char) :
    ∃ front, text = front ++ (readMoreItems text).2 ∧ SpellsMoreItems front (readMoreItems text).1 := by
  fun_induction readMoreItems text with
  | case1 text _ => exact ⟨[], rfl, .nil⟩
  | case2 text afterSeparator _ _ => exact ⟨[], rfl, .nil⟩
  | case3 text afterSeparator separated item rest found items behind read ih =>
      obtain ⟨separator, rfl, separates⟩ := Separates.of_readSeparator separated
      obtain ⟨front, rfl, spelled, -⟩ := Item.read_eq_some.mp found
      rw [read] at ih
      obtain ⟨more, rfl, spelledMore⟩ := ih
      exact ⟨separator ++ (front ++ more), by simp, .cons separates spelled spelledMore⟩

theorem Item.read_of_allBlank (blank : AllBlank text) : Item.read text = none := by
  cases found : Item.read text with
  | none => rfl
  | some read =>
      obtain ⟨front, split, spelled, -⟩ := Item.read_eq_some.mp found
      obtain ⟨first, tail, rfl, solid, -⟩ := spelled.exists_cons
      have blankFirst := blank first (by simp [split])
      rcases blankFirst with rfl | rfl <;> simp [isBlank] at solid

theorem SpellsMoreItems.stopsAt (spelled : SpellsMoreItems text items) {after : List Char} (blank : AllBlank after) :
    StopsAt Char.isDigit (text ++ after) := by
  cases spelled with
  | nil =>
      intro first head
      rcases blank first (List.mem_of_head? head) with rfl | rfl <;> rfl
  | cons separates _ _ =>
      obtain ⟨first, tail, rfl, notDigit⟩ := separates.exists_cons
      exact stopsAt_cons notDigit _

theorem readMoreItems_append (spelled : SpellsMoreItems text items) {after : List Char} (blank : AllBlank after) :
    readMoreItems (text ++ after) = (items, after) := by
  induction spelled with
  | nil =>
      apply readMoreItems_of_not_read
      intro afterSeparator separated
      obtain ⟨separator, rfl, -⟩ := Separates.of_readSeparator separated
      apply Item.read_of_allBlank
      intro char member
      exact blank char (by simp [member])
  | @cons separator text rest item items separates spelled more ih =>
      obtain ⟨first, tail, same, solid, noDot⟩ := spelled.exists_cons
      have separated := separates.readSeparator_append solid noDot (tail ++ (rest ++ after))
      have found := Item.read_eq_some.mpr ⟨text, rfl, spelled, parted_of_stops (more.stopsAt blank)⟩
      rw [← List.cons_append, ← same] at separated
      rw [List.append_assoc, List.append_assoc, readMoreItems_of_read separated found, ih]

theorem readItems_append (spelled : SpellsItems text items) {after : List Char} (blank : AllBlank after) :
    readItems (text ++ after) = (items, after) := by
  cases spelled with
  | nil => simp [readItems, Item.read_of_allBlank blank]
  | @cons text rest item items spelled more =>
      have found := Item.read_eq_some.mpr ⟨text, rfl, spelled, parted_of_stops (more.stopsAt blank)⟩
      rw [List.append_assoc, readItems, found]
      simp only [readMoreItems_append more blank]

theorem spells_readItems (text : List Char) :
    ∃ front, text = front ++ (readItems text).2 ∧ SpellsItems front (readItems text).1 := by
  rw [readItems]
  split
  · exact ⟨[], rfl, .nil⟩
  · rename_i item rest found
    obtain ⟨front, rfl, spelled, -⟩ := Item.read_eq_some.mp found
    obtain ⟨more, split, spelledMore⟩ := spells_readMoreItems rest
    refine ⟨front ++ more, ?_, .cons spelled spelledMore⟩
    rw [List.append_assoc, ← split]

theorem skipBlanks_of_allBlank (blank : AllBlank text) : skipBlanks text = [] := by
  have skipped : skipBlanks (text ++ []) = [] := skipBlanks_append blank (by simp [StopsAt])
  rwa [List.append_nil] at skipped

/-- A text spells at most one list of items, the one that reading it gives, and it does if reading leaves blanks. -/
theorem spellsListing_iff : SpellsListing text items ↔
    (readItems (skipBlanks text)).1 = items ∧ skipBlanks (readItems (skipBlanks text)).2 = [] := by
  constructor
  · rintro ⟨blankBefore, spelled, blankAfter⟩
    rename_i before front after
    have emptied := skipBlanks_of_allBlank blankAfter
    cases spelled with
    | nil =>
        have blank : AllBlank (before ++ ([] ++ after)) := List.forall_mem_append.mpr ⟨blankBefore, blankAfter⟩
        rw [skipBlanks_of_allBlank blank]
        exact ⟨rfl, rfl⟩
    | @cons _ rest _ _ spelledFirst more =>
        have read := readItems_append (.cons spelledFirst more) blankAfter
        obtain ⟨first, tail, rfl, solid, -⟩ := spelledFirst.exists_cons
        have stops : StopsAt isBlank (first :: tail ++ rest ++ after) := stopsAt_cons solid _
        rw [skipBlanks_append blankBefore stops, read]
        exact ⟨rfl, emptied⟩
  · rintro ⟨rfl, emptied⟩
    obtain ⟨before, blankBefore, split⟩ := exists_blanks text
    obtain ⟨front, frontSplit, spelled⟩ := spells_readItems (skipBlanks text)
    obtain ⟨after, blankAfter, afterSplit⟩ := exists_blanks (readItems (skipBlanks text)).2
    rw [emptied, List.append_nil] at afterSplit
    rw [afterSplit] at frontSplit
    have listing := SpellsListing.padded blankBefore spelled blankAfter
    rwa [← frontSplit, ← split] at listing

section Repeats

def FirstRepeats (items : List Item) (axis : Axis) : Prop :=
  ∃ earlier item later, items = earlier ++ item :: later ∧ item.axis = axis ∧ axis ∈ earlier.map Item.axis ∧
    (earlier.map Item.axis).Nodup

theorem firstRepeated_eq_none {seen : List Axis} :
    firstRepeated seen items = none ↔ (items.map Item.axis).Nodup ∧ ∀ item ∈ items, item.axis ∉ seen := by
  induction items generalizing seen with
  | nil => simp [firstRepeated]
  | cons first rest ih =>
      rw [firstRepeated, List.map_cons, List.nodup_cons, List.forall_mem_cons]
      split
      · rename_i known
        simp [known]
      · rename_i fresh
        rw [ih]
        simp only [List.mem_cons, not_or, List.mem_map, not_exists, not_and, fresh, not_false_eq_true, true_and]
        constructor
        · rintro ⟨distinct, apart⟩
          exact ⟨⟨fun item member => (apart item member).1, distinct⟩, fun item member => (apart item member).2⟩
        · rintro ⟨⟨apart, distinct⟩, unseen⟩
          exact ⟨distinct, fun item member => ⟨apart item member, unseen item member⟩⟩

theorem firstRepeated_append {seen : List Axis} {earlier : List Item} (distinct : firstRepeated seen earlier = none)
    (later : List Item) :
    firstRepeated seen (earlier ++ later) = firstRepeated ((earlier.map Item.axis).reverse ++ seen) later := by
  induction earlier generalizing seen with
  | nil => rfl
  | cons first rest ih =>
      rw [firstRepeated] at distinct
      split at distinct
      · simp at distinct
      · rename_i fresh
        rw [List.cons_append, firstRepeated, if_neg fresh, ih distinct, List.map_cons, List.reverse_cons,
          List.append_assoc, List.singleton_append]

theorem exists_of_firstRepeated {seen : List Axis} {axis : Axis} (found : firstRepeated seen items = some axis) :
    ∃ earlier item later, items = earlier ++ item :: later ∧ item.axis = axis ∧
      firstRepeated seen earlier = none ∧ axis ∈ (earlier.map Item.axis).reverse ++ seen := by
  induction items generalizing seen with
  | nil => simp [firstRepeated] at found
  | cons first rest ih =>
      rw [firstRepeated] at found
      split at found
      · rename_i known
        obtain rfl := Option.some.inj found
        exact ⟨[], first, rest, rfl, rfl, rfl, by simpa using known⟩
      · rename_i fresh
        obtain ⟨earlier, item, later, rfl, onAxis, distinct, met⟩ := ih found
        refine ⟨first :: earlier, item, later, rfl, onAxis, ?_, by simpa using met⟩
        rw [firstRepeated, if_neg fresh, distinct]

theorem firstRepeated_eq_some {axis : Axis} : firstRepeated [] items = some axis ↔ FirstRepeats items axis := by
  have none_iff (earlier : List Item) : firstRepeated [] earlier = none ↔ (earlier.map Item.axis).Nodup := by
    simp [firstRepeated_eq_none]
  constructor
  · intro found
    obtain ⟨earlier, item, later, split, onAxis, distinct, met⟩ := exists_of_firstRepeated found
    exact ⟨earlier, item, later, split, onAxis, by simpa using met, (none_iff earlier).mp distinct⟩
  · rintro ⟨earlier, item, later, rfl, rfl, met, distinct⟩
    rw [firstRepeated_append ((none_iff earlier).mpr distinct), firstRepeated, if_pos (by simpa using met)]

end Repeats

namespace Coords

structure Carries (coords : Coords) (items : List Item) : Prop where
  content : ∀ item ∈ items, coords.get item.axis = item.content
  others : ∀ axis, axis ∉ items.map Item.axis → coords.get axis = wild.get axis

theorem Carries.unique {left right : Coords} (leftCarries : left.Carries items) (rightCarries : right.Carries items) :
    left = right := by
  apply eq_of_get_eq
  intro axis
  by_cases named : axis ∈ items.map Item.axis
  · obtain ⟨item, member, rfl⟩ := List.mem_map.mp named
    rw [leftCarries.content item member, rightCarries.content item member]
  · rw [leftCarries.others axis named, rightCarries.others axis named]

theorem Carries.of_perm {coords : Coords} {others : List Item} (carries : coords.Carries items)
    (same : items.Perm others) : coords.Carries others := by
  refine ⟨?_, ?_⟩
  · intro item member
    exact carries.content item (same.mem_iff.mpr member)
  · intro axis unnamed
    exact carries.others axis fun named => unnamed ((same.map Item.axis).mem_iff.mp named)

theorem get_foldl_set (items : List Item) (coords : Coords) {axis : Axis} (unnamed : axis ∉ items.map Item.axis) :
    (items.foldl (fun coords item => coords.set item.axis item.content) coords).get axis = coords.get axis := by
  induction items generalizing coords with
  | nil => rfl
  | cons first rest ih =>
      rw [List.map_cons, List.mem_cons, not_or] at unnamed
      rw [List.foldl_cons, ih _ unnamed.2, get_set_of_ne coords (Ne.symm unnamed.1)]

theorem get_foldl_set_of_mem (coords : Coords) (distinct : (items.map Item.axis).Nodup) (member : item ∈ items) :
    (items.foldl (fun coords item => coords.set item.axis item.content) coords).get item.axis = item.content := by
  induction items generalizing coords with
  | nil => simp at member
  | cons first rest ih =>
      rw [List.map_cons, List.nodup_cons] at distinct
      rw [List.foldl_cons]
      rcases List.mem_cons.mp member with rfl | later
      · rw [get_foldl_set rest _ distinct.1, get_set_self]
      · exact ih _ distinct.2 later

theorem carries_ofItems (distinct : (items.map Item.axis).Nodup) : (ofItems items).Carries items :=
  ⟨fun _ member => get_foldl_set_of_mem wild distinct member, fun _ unnamed => get_foldl_set items wild unnamed⟩

theorem parse_of_spells {text : String} (spelled : SpellsListing text.toList items) :
    parse text =
      match firstRepeated [] items with
      | some axis => .error (.repeated axis)
      | none => .ok (ofItems items) := by
  obtain ⟨rfl, emptied⟩ := spellsListing_iff.mp spelled
  exact if_pos (List.isEmpty_iff.mpr emptied)

theorem parse_of_not_spells {text : String} (none : ∀ items, ¬ SpellsListing text.toList items) :
    ∃ offset, parse text = .error (.unexpected text offset) := by
  have left : (skipBlanks (readItems (skipBlanks text.toList)).2).isEmpty = false := by
    rw [List.isEmpty_eq_false_iff]
    intro emptied
    exact none _ (spellsListing_iff.mpr ⟨rfl, emptied⟩)
  exact ⟨_, if_neg (Bool.eq_false_iff.mp left)⟩

theorem exists_spells_of_parse {text : String}
    (read : ∀ offset, parse text ≠ .error (.unexpected text offset)) : ∃ items, SpellsListing text.toList items := by
  apply Classical.byContradiction
  intro none
  obtain ⟨offset, refused⟩ := parse_of_not_spells (not_exists.mp none)
  exact read offset refused

theorem parse_eq_ok_of_spells {text : String} (spelled : SpellsListing text.toList items) {coords : Coords} :
    parse text = .ok coords ↔ (items.map Item.axis).Nodup ∧ coords.Carries items := by
  rw [parse_of_spells spelled]
  cases found : firstRepeated [] items with
  | some axis =>
      have repeating : ¬ (items.map Item.axis).Nodup := by
        intro distinct
        have clear : firstRepeated [] items = none := firstRepeated_eq_none.mpr ⟨distinct, by simp⟩
        simp [clear] at found
      simp [repeating]
  | none =>
      have distinct := (firstRepeated_eq_none.mp found).1
      have carries := carries_ofItems distinct
      simp only [Except.ok.injEq, distinct, true_and]
      constructor
      · rintro rfl
        exact carries
      · exact carries.unique

theorem parse_eq_repeated_of_spells {text : String} (spelled : SpellsListing text.toList items) {axis : Axis} :
    parse text = .error (.repeated axis) ↔ FirstRepeats items axis := by
  rw [parse_of_spells spelled, ← firstRepeated_eq_some]
  cases firstRepeated [] items with
  | some other => simp
  | none => simp

/-- The parser accepts exactly the listings of items on different axes, and the order of the items makes no difference.
A listing with two items on one axis is refused for the first axis that is repeated, and all other texts are refused
at an offset. -/
theorem parse_grammar (text : String) :
    (∀ coords, parse text = .ok coords ↔
      ∃ items, SpellsListing text.toList items ∧ (items.map Item.axis).Nodup ∧ coords.Carries items) ∧
    (∀ axis, parse text = .error (.repeated axis) ↔
      ∃ items, SpellsListing text.toList items ∧ FirstRepeats items axis) ∧
    ((∃ offset, parse text = .error (.unexpected text offset)) ↔ ∀ items, ¬ SpellsListing text.toList items) ∧
    (∀ (items others : List Item) (other : String), SpellsListing text.toList items →
      SpellsListing other.toList others → items.Perm others →
        ∀ coords, parse text = .ok coords ↔ parse other = .ok coords) := by
  refine ⟨?_, ?_, ?_, ?_⟩
  · intro coords
    constructor
    · intro parsed
      have accepted : ∀ offset, parse text ≠ .error (.unexpected text offset) := by simp [parsed]
      obtain ⟨items, spelled⟩ := exists_spells_of_parse accepted
      exact ⟨items, spelled, (parse_eq_ok_of_spells spelled).mp parsed⟩
    · rintro ⟨items, spelled, carried⟩
      exact (parse_eq_ok_of_spells spelled).mpr carried
  · intro axis
    constructor
    · intro parsed
      have listed : ∀ offset, parse text ≠ .error (.unexpected text offset) := by simp [parsed]
      obtain ⟨items, spelled⟩ := exists_spells_of_parse listed
      exact ⟨items, spelled, (parse_eq_repeated_of_spells spelled).mp parsed⟩
    · rintro ⟨items, spelled, repeats⟩
      exact (parse_eq_repeated_of_spells spelled).mpr repeats
  · constructor
    · rintro ⟨offset, parsed⟩ items spelled
      rw [parse_of_spells spelled] at parsed
      split at parsed <;> simp at parsed
    · exact parse_of_not_spells
  · intro items others other spelled otherSpelled same coords
    rw [parse_eq_ok_of_spells spelled, parse_eq_ok_of_spells otherSpelled, (same.map Item.axis).nodup_iff]
    exact and_congr_right fun _ => ⟨fun carries => carries.of_perm same, fun carries => carries.of_perm same.symm⟩

end Coords

end LaneScope
