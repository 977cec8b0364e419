import CertGate.Config.Layers
import CertGate.Proofs.VariableSettings

/-!
# Values with their dictionaries in order

A value is arranged if each dictionary in it has its keys in order, each one there once. Whatever is read
from a file or from variables is arranged, and so are the settings that a configuration is read from.

## Key results

- `Value.arranged_merge`: arranged values are laid over each other
- `Yaml.arranged_readDict?`: a file has arranged settings
- `Environment.arranged_settings`: and so have variables
- `Config.arranged_layers`: all settings together are arranged
- `Value.ofMembers_of_ordered`: members that are in order stay as they are
-/

namespace CertGate

namespace Value

/-- Each dictionary in a value is `Ordered`. -/
inductive Arranged : Value → Prop where
  | null : Arranged .null
  | flag (b : Bool) : Arranged (.flag b)
  | letter (c : Char) : Arranged (.letter c)
  | text (s : String) : Arranged (.text s)
  | int (n : Int) : Arranged (.int n)
  | decimal (written : String) : Arranged (.decimal written)
  | list (items : List Value) (h : ∀ v ∈ items, Arranged v) : Arranged (.list items)
  | dict (members : List (String × Value)) (hordered : Ordered members)
    (h : ∀ m ∈ members, Arranged m.2) : Arranged (.dict members)

/-! ## Members -/

/-- A member of `insertMember` is the one put in, or was there before. -/
theorem mem_of_mem_insertMember (key : String) (v : Value) (members : List (String × Value))
    (m : String × Value) (h : m ∈ insertMember key v members) : m = (key, v) ∨ m ∈ members := by
  induction members with
  | nil => exact Or.inl (List.mem_singleton.1 h)
  | cons member rest ih =>
    obtain ⟨j, w⟩ := member
    rw [insertMember] at h
    split at h
    · -- in front of the first member
      exact List.mem_cons.1 h
    · split at h
      · -- in its place
        exact (List.mem_cons.1 h).imp_right (List.mem_cons_of_mem _)
      · -- further behind
        obtain rfl | hrest := List.mem_cons.1 h
        · exact Or.inr List.mem_cons_self
        · exact (ih hrest).imp_right (List.mem_cons_of_mem _)

/-- `insertMember` keeps a dictionary `Arranged`. -/
theorem arranged_insertMember (key : String) (v : Value) (members : List (String × Value))
    (h : Arranged (.dict members)) (hv : Arranged v) : Arranged (.dict (insertMember key v members)) := by
  cases h with
  | dict _ hordered hmembers =>
    refine .dict _ (ordered_insertMember key v members hordered) fun m hm => ?_
    obtain rfl | hm := mem_of_mem_insertMember key v members m hm
    · exact hv
    · exact hmembers m hm

theorem arranged_empty : Arranged (.dict []) :=
  .dict [] List.Pairwise.nil fun _ hm => nomatch hm

/-- `insertMember` as a step of a fold. -/
def addMember (ms : List (String × Value)) (m : String × Value) : List (String × Value) :=
  insertMember m.1 m.2 ms

theorem ofMembers_eq (members : List (String × Value)) :
    ofMembers members = .dict (members.foldl addMember []) := rfl

/-- `ofMembers` gives an `Arranged` dictionary, in whatever order the members come. -/
theorem arranged_ofMembers (members : List (String × Value)) (h : ∀ m ∈ members, Arranged m.2) :
    Arranged (ofMembers members) := by
  have hfold (done : List (String × Value)) (hdone : Arranged (.dict done)) :
      Arranged (.dict (members.foldl addMember done)) := by
    induction members generalizing done with
    | nil => exact hdone
    | cons member members ih =>
      have hfirst := arranged_insertMember member.1 member.2 done hdone (h member List.mem_cons_self)
      exact ih (fun m hm => h m (List.mem_cons_of_mem _ hm)) _ hfirst
  exact hfold [] arranged_empty

/-- `insertMember` puts a member behind all others at the end. -/
theorem insertMember_of_last (key : String) (v : Value) (members : List (String × Value))
    (h : Ordered (members ++ [(key, v)])) : insertMember key v members = members ++ [(key, v)] := by
  induction members with
  | nil => rfl
  | cons member rest ih =>
    obtain ⟨j, w⟩ := member
    obtain ⟨hfirst, hrest⟩ := List.pairwise_cons.1 h
    have hlt : j < key := hfirst key (by simp)
    have hne : key ≠ j := fun heq => String.lt_irrefl j (heq ▸ hlt)
    have hnot : ¬key < j := fun hgt => String.lt_irrefl j (String.lt_trans hlt hgt)
    rw [insertMember, if_neg hnot, if_neg hne, ih hrest, List.cons_append]

/-- `ofMembers` leaves members that are in order as they are. -/
theorem ofMembers_of_ordered (members : List (String × Value)) (h : Ordered members) :
    ofMembers members = .dict members := by
  -- each member comes behind those that have been put in their places before
  have hfold (done : List (String × Value)) (hordered : Ordered (done ++ members)) :
      members.foldl addMember done = done ++ members := by
    clear h
    induction members generalizing done with
    | nil => rw [List.foldl_nil, List.append_nil]
    | cons member members ih =>
      obtain ⟨k, v⟩ := member
      have happend : done ++ (k, v) :: members = done ++ [(k, v)] ++ members := by
        rw [List.append_assoc, List.singleton_append]
      rw [happend] at hordered ⊢
      have hlast : Ordered (done ++ [(k, v)]) := by
        rw [Ordered, List.map_append] at hordered
        exact (List.pairwise_append.1 hordered).1
      rw [List.foldl_cons, addMember, insertMember_of_last k v done hlast, ih _ hordered]
  rw [ofMembers_eq, hfold [] h, List.nil_append]

/-! ## Merging -/

/-- `mergeMembers` keeps a dictionary `Arranged`: members are merged one after the other, each with
what is below it. -/
theorem arranged_mergeMembers (below above : List (String × Value)) (h : Arranged (.dict below))
    (habove : ∀ m ∈ above, Arranged m.2)
    (hmerge : ∀ m ∈ above, ∀ w, Arranged w → Arranged (w.merge m.2)) :
    Arranged (.dict (mergeMembers below above)) := by
  induction above generalizing below with
  | nil =>
    rw [mergeMembers]
    exact h
  | cons member above ih =>
    obtain ⟨key, v⟩ := member
    rw [mergeMembers]
    refine ih _ (arranged_insertMember key _ below h ?_)
      (fun m hm => habove m (List.mem_cons_of_mem _ hm))
      fun m hm => hmerge m (List.mem_cons_of_mem _ hm)
    split
    · -- what is below is a member of an arranged dictionary
      next w hw =>
      cases h with
      | dict _ _ hbelow =>
        obtain ⟨before, behind, rfl, -⟩ := List.lookup_eq_some_iff.1 hw
        exact hmerge _ List.mem_cons_self w (hbelow (key, w) (by simp))
    · exact habove _ List.mem_cons_self

/-- `merge` of arranged values is arranged. -/
theorem arranged_merge (below above : Value) (hbelow : Arranged below) (habove : Arranged above) :
    Arranged (below.merge above) := by
  induction habove generalizing below with
  -- by what is above: only two dictionaries are merged member by member
  | dict members hordered hmembers ih =>
    cases hbelow with
    | dict under hunder hunders =>
      exact arranged_mergeMembers under members (.dict under hunder hunders) hmembers ih
    | _ => exact .dict members hordered hmembers
  | list items h ih => exact .list items h
  | null => exact .null
  | flag b => exact .flag b
  | letter c => exact .letter c
  | text s => exact .text s
  | int n => exact .int n
  | decimal written => exact .decimal written

/-- `nest` of an arranged value is arranged. -/
theorem arranged_nest (path : List String) (v : Value) (h : Arranged v) : Arranged (nest path v) := by
  induction path with
  | nil => exact h
  | cons key path ih =>
    refine .dict [(key, nest path v)] (List.pairwise_singleton ..) fun m hm => ?_
    rw [List.mem_singleton.1 hm]
    exact ih

end Value

/-! ## Variables -/

namespace Environment

open Value (Arranged)

/-- `bareValue` gives no container. -/
theorem arranged_bareValue (cs : List Char) : Arranged (bareValue cs) := by
  unfold bareValue
  dsimp only
  repeat' split
  all_goals constructor

/-- Whatever is read from the text of a variable with this `fuel` is arranged: values, items and
members, which are read one inside another. -/
structure ReadsArranged (fuel : Nat) : Prop where
  value : ∀ cs v rest, readValue? fuel cs = some (v, rest) → v.Arranged
  items : ∀ cs items rest, readItems? fuel cs = some (items, rest) → ∀ v ∈ items, v.Arranged
  members : ∀ cs members rest, readMembers? fuel cs = some (members, rest) → ∀ m ∈ members, m.2.Arranged

namespace ReadsArranged

variable {fuel : Nat} (ih : ReadsArranged fuel)

include ih

theorem readValue (cs : List Char) (v : Value) (rest : List Char)
    (h : readValue? (fuel + 1) cs = some (v, rest)) : v.Arranged := by
  rw [readValue?] at h
  dsimp only at h
  split at h
  · -- a flag
    cases h
    exact .flag true
  · cases h
    exact .flag false
  · -- a list
    obtain ⟨⟨items, behind⟩, hitems, h⟩ := Option.bind_eq_some_iff.1 h
    cases h
    exact .list items (ih.items _ items behind hitems)
  · -- a dictionary
    obtain ⟨⟨members, behind⟩, hmembers, h⟩ := Option.bind_eq_some_iff.1 h
    cases h
    exact Value.arranged_ofMembers members (ih.members _ members behind hmembers)
  · -- a text in quotes
    obtain ⟨⟨s, behind⟩, -, h⟩ := Option.bind_eq_some_iff.1 h
    cases h
    exact .text s
  · -- a letter in quotes
    cases h
    exact .letter _
  · cases h
  · cases h
    -- no marks, so the text is read as it is
    exact arranged_bareValue _

theorem readItems (cs : List Char) (items : List Value) (rest : List Char)
    (h : readItems? (fuel + 1) cs = some (items, rest)) : ∀ v ∈ items, v.Arranged := by
  unfold readItems? at h
  split at h
  · cases h
  · cases h
    exact fun v hv => nomatch hv
  next fuel' hfuel _ =>
    obtain rfl := Nat.succ.inj hfuel
    obtain ⟨⟨item, behind⟩, hitem, h⟩ := Option.bind_eq_some_iff.1 h
    dsimp only at h
    split at h
    · -- a comma, and more items behind it
      obtain ⟨⟨more, behind⟩, hmore, h⟩ := Option.bind_eq_some_iff.1 h
      cases h
      exact List.forall_mem_cons.2 ⟨ih.value _ item _ hitem, ih.items _ more _ hmore⟩
    · -- the last item
      cases h
      exact List.forall_mem_singleton.2 (ih.value _ item _ hitem)
    · cases h

theorem readMembers (cs : List Char) (members : List (String × Value)) (rest : List Char)
    (h : readMembers? (fuel + 1) cs = some (members, rest)) : ∀ m ∈ members, m.2.Arranged := by
  unfold readMembers? at h
  split at h
  · cases h
  · cases h
    exact fun m hm => nomatch hm
  next fuel' hfuel _ =>
    obtain rfl := Nat.succ.inj hfuel
    obtain ⟨⟨key, behind⟩, -, h⟩ := Option.bind_eq_some_iff.1 h
    dsimp only at h
    split at h
    · obtain ⟨⟨v, behind⟩, hv, h⟩ := Option.bind_eq_some_iff.1 h
      dsimp only at h
      split at h
      · -- a comma, and more members behind it
        obtain ⟨⟨more, behind⟩, hmore, h⟩ := Option.bind_eq_some_iff.1 h
        cases h
        exact List.forall_mem_cons.2 ⟨ih.value _ v _ hv, ih.members _ more _ hmore⟩
      · -- the last member
        cases h
        exact List.forall_mem_singleton.2 (ih.value _ v _ hv)
      · cases h
    · cases h

end ReadsArranged

/-- `ReadsArranged` holds for all fuel. The three readers call each other with less of it. -/
theorem readsArranged (fuel : Nat) : ReadsArranged fuel := by
  induction fuel with
  | zero => refine ⟨fun _ _ _ h => ?_, fun _ _ _ h => ?_, fun _ _ _ h => ?_⟩ <;> cases h
  | succ fuel ih => exact ⟨ih.readValue, ih.readItems, ih.readMembers⟩

/-- `valueOf` gives arranged values. -/
theorem arranged_valueOf (s : String) : Arranged (valueOf s) := by
  unfold valueOf
  dsimp only
  split
  · next v hread => exact (readsArranged _).value _ v [] hread
  · exact .text s

/-- `addSetting` keeps settings arranged. -/
theorem arranged_addSetting (v : Value) (e : String × String) (h : v.Arranged) :
    (addSetting v e).Arranged := by
  unfold addSetting
  split
  · next path _ =>
    exact Value.arranged_merge _ _ h (Value.arranged_nest path _ (arranged_valueOf e.2))
  · exact h

/-- The `settings` of an environment are arranged. -/
theorem arranged_settings (env : Environment) : (settings env).Arranged := by
  have hfold (start : Value) (hstart : start.Arranged) : (env.foldl addSetting start).Arranged := by
    induction env generalizing start with
    | nil => exact hstart
    | cons e env ih => exact ih _ (arranged_addSetting start e hstart)
  rw [settings_eq]
  exact hfold _ Value.arranged_empty

end Environment

/-! ## Files -/

namespace Yaml

open Value (Arranged)

/-- `plainValue` gives no container. -/
theorem arranged_plainValue (s : String) : Arranged (plainValue s) := by
  unfold plainValue
  repeat' split
  all_goals constructor

/-- `scalarValue?` gives no container, whatever the tag. -/
theorem arranged_scalarValue? (tag : Option String) (text : String) (plain : Bool) (v : Value)
    (h : scalarValue? tag text plain = some v) : Arranged v := by
  unfold scalarValue? at h
  split at h
  · -- no tag
    cases h
    split
    · exact arranged_plainValue text
    · exact .text text
  · split at h
    · -- flags
      obtain ⟨b, -, rfl⟩ := Option.map_eq_some_iff.1 h
      exact .flag b
    split at h
    · -- whole numbers
      obtain ⟨n, -, rfl⟩ := Option.map_eq_some_iff.1 h
      exact .int n
    split at h
    · -- decimal numbers
      split at h
      · cases h
        exact .decimal text
      · cases h
    split at h
    · -- null
      split at h
      · cases h
        exact .null
      · cases h
    split at h
    · cases h
    · cases h
      exact .text text

/-- The value that an anchor marks is `Arranged`, if there is one. -/
def Marked.Arranged (m : Marked) : Prop :=
  ∀ v, m.value = some v → v.Arranged

/-- All that the finished anchors mark is `Arranged`. -/
def Anchors.Arranged (a : Anchors) : Prop :=
  ∀ name m, (name, some m) ∈ a.entries → m.Arranged

/-- `enter` keeps anchors arranged: one that was just entered marks nothing yet. -/
theorem Anchors.arranged_enter (a : Anchors) (name : Option String) (h : a.Arranged) :
    (a.enter name).1.Arranged := by
  cases name with
  | none => exact h
  | some name =>
    intro other m hm
    obtain heq | hm := List.mem_cons.1 hm
    · cases heq
    · exact h other m hm

/-- `finish` keeps anchors arranged if what it marks is. -/
theorem Anchors.arranged_finish (a : Anchors) (place : Option Nat) (m : Marked) (h : a.Arranged)
    (hm : m.Arranged) : (a.finish place m).Arranged := by
  cases place with
  | none => exact h
  | some n =>
    intro name m' hmem
    obtain ⟨i, hi⟩ := List.mem_iff_getElem?.1 hmem
    rw [finish, List.getElem?_modify] at hi
    obtain ⟨⟨other, m''⟩, hother, hi⟩ := Option.map_eq_some_iff.1 hi
    split at hi
    · cases hi
      exact hm
    · cases hi
      exact h name m' (List.mem_of_getElem? hother)

/-- `follow?` gives something arranged, and keeps the anchors so. -/
theorem Anchors.arranged_follow? (a after : Anchors) (name : String) (m : Marked) (h : a.Arranged)
    (hfollow : a.follow? name = some (m, after)) : after.Arranged ∧ m.Arranged := by
  obtain ⟨entry, hentry, hfollow⟩ := Option.bind_eq_some_iff.1 hfollow
  obtain ⟨m', hm', hfollow⟩ := Option.bind_eq_some_iff.1 hfollow
  cases hfollow
  obtain ⟨before, behind, hsplit, -⟩ := List.lookup_eq_some_iff.1 hentry
  refine ⟨h, h name m ?_⟩
  rw [hsplit, hm']
  exact List.mem_append_right before List.mem_cons_self

/-- `readScalar` gives something arranged, and keeps the anchors so. -/
theorem arranged_readScalar (marks : Marks) (text : String) (plain : Bool) (a : Anchors)
    (h : a.Arranged) : (readScalar marks text plain a).2.Arranged ∧
      (readScalar marks text plain a).1.Arranged := by
  have hvalue : Marked.Arranged ⟨some text, scalarValue? marks.tag text plain, 0, 0⟩ := fun v hv =>
    arranged_scalarValue? marks.tag text plain v hv
  exact ⟨Anchors.arranged_finish _ _ _ (Anchors.arranged_enter a marks.anchor h) hvalue, hvalue⟩

/-- `key?` keeps anchors arranged. A key may have an anchor, or be an alias of one. -/
theorem arranged_key? (a after : Anchors) (node : Node) (key : String) (h : a.Arranged)
    (hkey : node.key? a = some (key, after)) : after.Arranged := by
  cases node with
  | «alias» name =>
    obtain ⟨⟨m, behind⟩, hfollow, hkey⟩ := Option.bind_eq_some_iff.1 hkey
    obtain ⟨k, -, hkey⟩ := Option.bind_eq_some_iff.1 hkey
    cases hkey
    exact (Anchors.arranged_follow? a after name m h hfollow).1
  | scalar marks text plain =>
    obtain rfl := (Prod.mk.inj (Option.some.inj hkey)).2
    exact (arranged_readScalar marks _ plain a h).1
  | sequence | mapping => cases hkey

mutual

/-- `Node.value?` gives arranged values, and keeps the anchors arranged. -/
theorem Node.arranged_value? (a after : Anchors) (node : Node) (deep : Deep) (h : a.Arranged)
    (hv : node.value? a = some (deep, after)) : after.Arranged ∧ deep.1.Arranged := by
  cases node with
  | «alias» name =>
    rw [Node.value?] at hv
    obtain ⟨⟨m, behind⟩, hfollow, hv⟩ := Option.bind_eq_some_iff.1 hv
    obtain ⟨v, hvalue, hv⟩ := Option.bind_eq_some_iff.1 hv
    cases hv
    -- what the alias stands for was arranged when its anchor was finished
    obtain ⟨hafter, hm⟩ := Anchors.arranged_follow? a after name m h hfollow
    exact ⟨hafter, hm v hvalue⟩
  | scalar marks text plain =>
    rw [Node.value?] at hv
    obtain ⟨v, hvalue, hv⟩ := Option.bind_eq_some_iff.1 hv
    cases hv
    obtain ⟨hafter, hm⟩ := arranged_readScalar marks text plain a h
    exact ⟨hafter, hm v hvalue⟩
  | sequence marks items =>
    rw [Node.value?] at hv
    split at hv
    · cases hv
    obtain ⟨⟨⟨values, depth⟩, behind⟩, hvalues, hv⟩ := Option.bind_eq_some_iff.1 hv
    cases hv
    have hentered := Anchors.arranged_enter a marks.anchor h
    obtain ⟨hbehind, hitems⟩ := arranged_itemValues? _ behind items _ hentered hvalues
    have hlist : Value.Arranged (.list values) := .list values hitems
    exact ⟨Anchors.arranged_finish behind _ _ hbehind fun v hv => Option.some.inj hv ▸ hlist, hlist⟩
  | mapping marks members =>
    rw [Node.value?] at hv
    split at hv
    · cases hv
    obtain ⟨⟨⟨values, depth⟩, behind⟩, hvalues, hv⟩ := Option.bind_eq_some_iff.1 hv
    cases hv
    have hentered := Anchors.arranged_enter a marks.anchor h
    obtain ⟨hbehind, hmembers⟩ := arranged_memberValues? _ behind members _ hentered hvalues
    have hdict := Value.arranged_ofMembers values hmembers
    exact ⟨Anchors.arranged_finish behind _ _ hbehind fun v hv => Option.some.inj hv ▸ hdict, hdict⟩

/-- `itemValues?` gives arranged values, and keeps the anchors arranged. -/
theorem arranged_itemValues? (a after : Anchors) (nodes : List Node) (vs : List Value × Nat)
    (h : a.Arranged) (hvs : itemValues? a nodes = some (vs, after)) :
    after.Arranged ∧ ∀ v ∈ vs.1, v.Arranged := by
  cases nodes with
  | nil =>
    rw [itemValues?] at hvs
    cases hvs
    exact ⟨h, fun v hv => nomatch hv⟩
  | cons node nodes =>
    rw [itemValues?] at hvs
    obtain ⟨⟨⟨v, d⟩, behind⟩, hv, hvs⟩ := Option.bind_eq_some_iff.1 hvs
    obtain ⟨⟨⟨more, ds⟩, behind'⟩, hmore, hvs⟩ := Option.bind_eq_some_iff.1 hvs
    cases hvs
    obtain ⟨hbehind, hfirst⟩ := Node.arranged_value? a behind node _ h hv
    obtain ⟨hafter, hrest⟩ := arranged_itemValues? behind after nodes _ hbehind hmore
    exact ⟨hafter, List.forall_mem_cons.2 ⟨hfirst, hrest⟩⟩

/-- `memberValues?` gives arranged values, and keeps the anchors arranged. -/
theorem arranged_memberValues? (a after : Anchors) (nodes : List (Node × Node))
    (vs : List (String × Value) × Nat) (h : a.Arranged)
    (hvs : memberValues? a nodes = some (vs, after)) : after.Arranged ∧ ∀ m ∈ vs.1, m.2.Arranged := by
  cases nodes with
  | nil =>
    rw [memberValues?] at hvs
    cases hvs
    exact ⟨h, fun m hm => nomatch hm⟩
  | cons member nodes =>
    obtain ⟨key, node⟩ := member
    rw [memberValues?] at hvs
    obtain ⟨⟨k, start⟩, hkey, hvs⟩ := Option.bind_eq_some_iff.1 hvs
    obtain ⟨⟨⟨v, d⟩, behind⟩, hv, hvs⟩ := Option.bind_eq_some_iff.1 hvs
    obtain ⟨⟨⟨more, ds⟩, behind'⟩, hmore, hvs⟩ := Option.bind_eq_some_iff.1 hvs
    cases hvs
    have hstart := arranged_key? a start key k h hkey
    obtain ⟨hbehind, hfirst⟩ := Node.arranged_value? start behind node _ hstart hv
    obtain ⟨hafter, hrest⟩ := arranged_memberValues? behind after nodes _ hbehind hmore
    exact ⟨hafter, List.forall_mem_cons.2 ⟨hfirst, hrest⟩⟩

end

/-- `readDict?` gives arranged settings. -/
theorem arranged_readDict? (content : List UInt8) (v : Value) (h : readDict? content = some v) :
    v.Arranged := by
  -- the text is read as tokens, and these as the node of at most one document
  obtain ⟨text, -, h⟩ := Option.bind_eq_some_iff.1 h
  obtain ⟨tokens, -, h⟩ := Option.bind_eq_some_iff.1 h
  obtain ⟨node?, -, h⟩ := Option.bind_eq_some_iff.1 h
  cases node? with
  | none =>
    cases h
    exact Value.arranged_empty
  | some node =>
    -- a document starts without anchors
    have hstart : Anchors.Arranged {} := fun name m hm => nomatch hm
    dsimp only [Node.dict?] at h
    split at h
    · cases h
      exact Value.arranged_empty
    · obtain ⟨⟨⟨w, depth⟩, a⟩, hvalue, h⟩ := Option.bind_eq_some_iff.1 h
      dsimp only at h
      split at h
      · cases h
        exact (Node.arranged_value? {} a _ _ hstart hvalue).2
      · cases h
    · cases h

end Yaml

namespace Config

/-- `fileLayer` gives arranged settings. -/
theorem arranged_fileLayer (files : Files) (path : Option String) (v : Value)
    (h : fileLayer files path = .ok v) : v.Arranged := by
  unfold fileLayer at h
  split at h
  · cases h
    exact Value.arranged_empty
  split at h
  · split at h
    · next v' hread =>
      cases h
      exact Yaml.arranged_readDict? _ v hread
    · cases h
  · split at h
    · cases h
      exact Value.arranged_empty
    · cases h

/-- `layers` gives arranged settings. -/
theorem arranged_layers (s : Surroundings) (file : Value) (h : file.Arranged) :
    (layers s file).Arranged :=
  Value.arranged_merge _ _ h (Environment.arranged_settings _)

end Config

end CertGate
