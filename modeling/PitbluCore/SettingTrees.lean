import PitbluCore.SettingPaths

namespace PitbluCore

open Library

def Value.isMapping : Value → Bool
  | .map _ => true
  | _ => false

mutual

def Value.leaves : Value → List (List String × Value)
  | .map entries => leavesOf entries
  | item => [([], item)]

def leavesOf : List (String × Value) → List (List String × Value)
  | [] => []
  | e :: entries => e.2.leaves.map (fun l => (e.1 :: l.1, l.2)) ++ leavesOf entries

end

def settingPath (pfx : String) (keys : List String) : String := keys.foldl joinPath pfx

theorem leaves_of_not_isMapping {v : Value} (h : v.isMapping = false) : v.leaves = [([], v)] := by
  cases v with
  | map entries => cases h
  | _ => rw [Value.leaves]; nofun

theorem leavesOf_eq_flatMap (entries : List (String × Value)) :
    leavesOf entries = entries.flatMap (fun e => e.2.leaves.map (fun l => (e.1 :: l.1, l.2))) := by
  induction entries with
  | nil => rw [leavesOf, List.flatMap_nil]
  | cons e entries ih => rw [leavesOf, List.flatMap_cons, ih]

theorem mem_leavesOf {entries : List (String × Value)} {l : List String × Value} :
    l ∈ leavesOf entries ↔ ∃ e ∈ entries, ∃ l' ∈ e.2.leaves, (e.1 :: l'.1, l'.2) = l := by
  simp only [leavesOf_eq_flatMap, List.mem_flatMap, List.mem_map]

section Flatten

theorem flattenItem_leaf {v : Value} (h : v.isMapping = false) (path : String) (flattened : Dict String Value) :
    flattenItem path flattened v = flattened.set path v := by
  cases v with
  | map entries => cases h
  | _ => rw [flattenItem]; nofun

theorem flattenItem_leaf_entries {v : Value} (h : v.isMapping = false) {path : String} {flattened : Dict String Value}
    (hnew : (flattened.keys ++ v.leaves.map (fun l => settingPath path l.1)).Nodup) :
    (flattenItem path flattened v).entries = flattened.entries ++
    v.leaves.map (fun l => (settingPath path l.1, l.2)) := by
  rw [leaves_of_not_isMapping h] at hnew ⊢
  rw [flattenItem_leaf h]
  exact insertEntry_new (fun hm => List.disjoint_of_nodup_append hnew hm List.mem_cons_self) v

mutual

theorem flattenItem_entries (path : String) (flattened : Dict String Value) : ∀ v : Value,
    (flattened.keys ++ v.leaves.map (fun l => settingPath path l.1)).Nodup →
    (flattenItem path flattened v).entries = flattened.entries ++ v.leaves.map (fun l => (settingPath path l.1, l.2))
  | .map entries, h => by
    rw [Value.leaves] at h ⊢
    have hbelow := flattenEntries_entries path Dict.empty entries (List.nodup_append'.mp h).2.1
    have hkeys : (flattenEntries path Dict.empty entries).keys =
        (leavesOf entries).map (fun l => settingPath path l.1) := by
      rw [Dict.keys, hbelow]
      simp [Dict.empty, Function.comp_def]
    rw [flattenItem, Dict.entries_update_new (hkeys ▸ h), hbelow]
    rfl
  | .null, h => flattenItem_leaf_entries rfl h
  | .bool _, h => flattenItem_leaf_entries rfl h
  | .int _, h => flattenItem_leaf_entries rfl h
  | .float _, h => flattenItem_leaf_entries rfl h
  | .str _, h => flattenItem_leaf_entries rfl h
  | .list _, h => flattenItem_leaf_entries rfl h

theorem flattenEntries_entries (pfx : String) (flattened : Dict String Value) : ∀ entries : List (String × Value),
    (flattened.keys ++ (leavesOf entries).map (fun l => settingPath pfx l.1)).Nodup →
    (flattenEntries pfx flattened entries).entries =
      flattened.entries ++ (leavesOf entries).map (fun l => (settingPath pfx l.1, l.2))
  | [], _ => by
    rw [flattenEntries, leavesOf, List.map_nil, List.append_nil]
  | e :: entries, h => by
    rw [leavesOf, List.map_append, List.map_map, ← List.append_assoc] at h
    have hitem := flattenItem_entries (joinPath pfx e.1) flattened e.2 (List.nodup_append'.mp h).1
    have hkeys : (flattenItem (joinPath pfx e.1) flattened e.2).keys =
        flattened.keys ++ e.2.leaves.map (fun l => settingPath (joinPath pfx e.1) l.1) := by
      rw [Dict.keys, hitem, List.map_append, List.map_map]
      rfl
    rw [flattenEntries, flattenEntries_entries pfx _ entries (hkeys ▸ h), hitem, leavesOf, List.map_append,
      List.map_map, List.append_assoc]
    rfl

end

theorem flatten_entries {entries : List (String × Value)}
    (h : ((leavesOf entries).map (fun l => settingPath "" l.1)).Nodup) :
    (flatten entries).entries = (leavesOf entries).map (fun l => (settingPath "" l.1, l.2)) :=
  flattenEntries_entries "" Dict.empty entries h

end Flatten

section Parts

def parts (path : String) : List String := (segments path).1 :: (segments path).2

def IsPart (key : String) : Prop := key ≠ "" ∧ '.' ∉ key.toList

def DottedPrefix (p q : String) : Prop := ∃ rest, q = p ++ "." ++ rest

theorem splitDots_of_notMem {cs : List Char} (h : '.' ∉ cs) : splitDots cs = (cs, []) := by
  induction cs with
  | nil => rfl
  | cons c cs ih =>
    simp only [List.mem_cons, not_or] at h
    rw [splitDots, if_neg (Ne.symm h.1), ih h.2]

theorem splitDots_append (cs ds : List Char) : splitDots (cs ++ '.' :: ds) =
    ((splitDots cs).1, (splitDots cs).2 ++ (splitDots ds).1 :: (splitDots ds).2) := by
  induction cs with
  | nil => rfl
  | cons c cs ih =>
    rw [List.cons_append, splitDots, splitDots, ih]
    split <;> rfl

theorem notMem_splitDots (cs : List Char) : ∀ part ∈ (splitDots cs).1 :: (splitDots cs).2, '.' ∉ part := by
  induction cs with
  | nil => simp [splitDots]
  | cons c cs ih =>
    rw [splitDots]
    split
    · simpa using ih
    · rename_i hc
      simp only [List.mem_cons, forall_eq_or_imp, not_or] at ih ⊢
      exact ⟨⟨Ne.symm hc, ih.1⟩, ih.2⟩

theorem parts_of_notMem {key : String} (h : '.' ∉ key.toList) : parts key = [key] := by
  rw [parts, segments, splitDots_of_notMem h]
  simp

theorem parts_append (p q : String) : parts (p ++ "." ++ q) = parts p ++ parts q := by
  have htext : (p ++ "." ++ q).toList = p.toList ++ '.' :: q.toList := by simp
  simp only [parts, segments, htext, splitDots_append, List.map_append, List.map_cons, List.cons_append]

theorem parts_injective {p q : String} (h : parts p = parts q) : p = q := by
  simp only [parts, List.cons.injEq] at h
  exact segments_injective (Prod.ext h.1 h.2)

theorem isPart_of_mem_parts {path part : String} (h : "" ∉ parts path) (hp : part ∈ parts path) : IsPart part := by
  refine ⟨fun he => h (he ▸ hp), ?_⟩
  have hdots := notMem_splitDots path.toList
  simp only [parts, segments, List.mem_cons, List.mem_map] at hp
  rcases hp with rfl | ⟨cs, hcs, rfl⟩
  · simpa using hdots _ List.mem_cons_self
  · simpa using hdots cs (List.mem_cons_of_mem _ hcs)

theorem parts_settingPath_below {pfx : String} (hp : pfx ≠ "") {keys : List String} (h : ∀ key ∈ keys, IsPart key) :
    parts (settingPath pfx keys) = parts pfx ++ keys := by
  induction keys generalizing pfx with
  | nil => exact (List.append_nil _).symm
  | cons key keys ih =>
    have hjoin : joinPath pfx key = pfx ++ "." ++ key := if_neg hp
    have hne : pfx ++ "." ++ key ≠ "" := fun he => by simpa using congrArg String.toList he
    have hkey := parts_of_notMem (h key List.mem_cons_self).2
    have hrest := ih hne (fun k hk => h k (List.mem_cons_of_mem key hk))
    rw [settingPath, List.foldl_cons, hjoin]
    rw [settingPath] at hrest
    rw [hrest, parts_append, hkey, List.append_assoc]
    rfl

theorem parts_settingPath {keys : List String} (hne : keys ≠ []) (h : ∀ key ∈ keys, IsPart key) :
    parts (settingPath "" keys) = keys := by
  cases keys with
  | nil => exact absurd rfl hne
  | cons key keys =>
    have hkey := h key List.mem_cons_self
    have hjoin : joinPath "" key = key := if_pos rfl
    have hbelow := parts_settingPath_below hkey.1 (fun k hk => h k (List.mem_cons_of_mem key hk))
    rw [parts_of_notMem hkey.2] at hbelow
    rw [settingPath, List.foldl_cons, hjoin]
    exact hbelow

theorem settingPath_parts {path : String} (h : "" ∉ parts path) : settingPath "" (parts path) = path :=
  parts_injective (parts_settingPath (List.cons_ne_nil _ _) (fun _ hp => isPart_of_mem_parts h hp))

theorem DottedPrefix.parts {p q : String} (h : DottedPrefix p q) : parts p <+: parts q ∧ parts p ≠ parts q := by
  obtain ⟨rest, rfl⟩ := h
  rw [parts_append]
  exact ⟨List.prefix_append _ _, fun he => absurd (List.self_eq_append_right.mp he) (List.cons_ne_nil _ _)⟩

theorem dottedPrefix_of_parts {p q : String} (hq : "" ∉ parts q) (hne : p ≠ q) (h : parts p <+: parts q) :
    DottedPrefix p q := by
  obtain ⟨rest, hrest⟩ := h
  have hpart : ∀ key ∈ rest, IsPart key := fun key hk =>
    isPart_of_mem_parts hq (hrest ▸ List.mem_append_right (parts p) hk)
  have hsome : rest ≠ [] := by
    rintro rfl
    exact hne (parts_injective (by simpa using hrest))
  refine ⟨settingPath "" rest, parts_injective ?_⟩
  rw [parts_append, parts_settingPath hsome hpart, hrest]

end Parts

def Apart (p q : List String) : Prop := ¬p <+: q ∧ ¬q <+: p

theorem apart_cons_iff {key : String} {p q : List String} : Apart (key :: p) (key :: q) ↔ Apart p q := by
  simp only [Apart, List.cons_prefix_cons, true_and]

theorem apart_of_ne {k k' : String} (h : k ≠ k') (p q : List String) : Apart (k :: p) (k' :: q) := by
  simp only [Apart, List.cons_prefix_cons, h, Ne.symm h, false_and, not_false_eq_true, and_self]

theorem path_ne_nil_of_mem {entries : List (String × Value)} {l : List String × Value} (h : l ∈ leavesOf entries) :
    l.1 ≠ [] := by
  obtain ⟨e, -, l', -, rfl⟩ := mem_leavesOf.mp h
  exact List.cons_ne_nil _ _

theorem apart_of_mem_leavesOf {entries : List (String × Value)} {key : String} (h : key ∉ entries.map Prod.fst)
    (path : List String) {l : List String × Value} (hl : l ∈ leavesOf entries) : Apart (key :: path) l.1 := by
  obtain ⟨e, he, l', -, rfl⟩ := mem_leavesOf.mp hl
  refine apart_of_ne ?_ path l'.1
  rintro rfl
  exact h (List.mem_map_of_mem he)

/-- The keys are parts of paths and occur once, and no nested mapping is empty. -/
inductive Nested : List (String × Value) → Prop
  | nil : Nested []
  | leaf {key : String} {v : Value} {entries : List (String × Value)} (hkey : IsPart key)
      (hnew : key ∉ entries.map Prod.fst) (hv : v.isMapping = false) (h : Nested entries) : Nested ((key, v) :: entries)
  | nest {key : String} {below entries : List (String × Value)} (hkey : IsPart key) (hnew : key ∉ entries.map Prod.fst)
      (hne : below ≠ []) (hbelow : Nested below) (h : Nested entries) : Nested ((key, .map below) :: entries)

namespace Nested

variable {entries : List (String × Value)}

theorem leavesOf_ne_nil (h : Nested entries) (hne : entries ≠ []) : leavesOf entries ≠ [] := by
  induction h with
  | nil => exact absurd rfl hne
  | leaf hkey hnew hv h ih =>
    rw [leavesOf, leaves_of_not_isMapping hv]
    exact List.cons_ne_nil _ _
  | nest hkey hnew hbelow hb h ihb ih =>
    rw [leavesOf, Value.leaves]
    exact List.append_ne_nil_of_left_ne_nil (by simpa using ihb hbelow) _

theorem isPart_of_mem (h : Nested entries) : ∀ l ∈ leavesOf entries, ∀ key ∈ l.1, IsPart key := by
  induction h with
  | nil => simp [leavesOf]
  | leaf hkey hnew hv h ih =>
    intro l hl
    rw [leavesOf, leaves_of_not_isMapping hv] at hl
    rcases List.mem_cons.mp hl with rfl | hl
    · simpa using hkey
    · exact ih l hl
  | nest hkey hnew hbelow hb h ihb ih =>
    intro l hl
    rw [leavesOf, Value.leaves, List.mem_append, List.mem_map] at hl
    rcases hl with ⟨l, hl, rfl⟩ | hl
    · exact List.forall_mem_cons.mpr ⟨hkey, ihb l hl⟩
    · exact ih l hl

theorem leaves_apart (h : Nested entries) : (leavesOf entries).Pairwise (fun l l' => Apart l.1 l'.1) := by
  induction h with
  | nil => simp [leavesOf]
  | leaf hkey hnew hv h ih =>
    rw [leavesOf, leaves_of_not_isMapping hv]
    exact List.pairwise_cons.mpr ⟨fun l hl => apart_of_mem_leavesOf hnew [] hl, ih⟩
  | nest hkey hnew hbelow hb h ihb ih =>
    rw [leavesOf, Value.leaves, List.pairwise_append, List.pairwise_map]
    refine ⟨ihb.imp (fun hp => apart_cons_iff.mpr hp), ih, ?_⟩
    intro l hl l' hl'
    obtain ⟨x, -, rfl⟩ := List.mem_map.mp hl
    exact apart_of_mem_leavesOf hnew x.1 hl'

end Nested

def assignLeaf (target : List (String × Value)) (l : List String × Value) : Option (List (String × Value)) :=
  match l.1 with
  | [] => none
  | part :: rest => assign target part l.2 rest

theorem inflate_eq (values : Dict String Value) :
    inflate values = (values.entries.map (fun e => (parts e.1, e.2))).foldlM assignLeaf [] := by
  rw [List.foldlM_map]
  rfl

section Refill

variable {target : List (String × Value)} {key : String}

theorem assignLeaf_new (h : key ∉ target.map Prod.fst) (l : List String × Value) (hl : l.1 ≠ []) :
    assignLeaf target (key :: l.1, l.2) = (assignLeaf [] l).map (fun below => target ++ [(key, .map below)]) := by
  obtain ⟨path, v⟩ := l
  cases path with
  | nil => exact absurd rfl hl
  | cons next rest =>
    simp only [assignLeaf, assign, lookup_eq_none h, insertEntry_new h]

theorem assignLeaf_last (h : key ∉ target.map Prod.fst) (below : List (String × Value)) (l : List String × Value)
    (hl : l.1 ≠ []) : assignLeaf (target ++ [(key, .map below)]) (key :: l.1, l.2) =
      (assignLeaf below l).map (fun below => target ++ [(key, .map below)]) := by
  obtain ⟨path, v⟩ := l
  have hlookup : (target ++ [(key, Value.map below)]).lookup key = some (.map below) := by
    rw [List.lookup_append, lookup_eq_none h]
    simp
  cases path with
  | nil => exact absurd rfl hl
  | cons next rest =>
    simp only [assignLeaf, assign, hlookup, insertEntry_last h]

theorem foldlM_assignLeaf_last (h : key ∉ target.map Prod.fst) {l : List (List String × Value)}
    (hl : ∀ x ∈ l, x.1 ≠ []) (below : List (String × Value)) :
    (l.map (fun x => (key :: x.1, x.2))).foldlM assignLeaf (target ++ [(key, .map below)]) =
      (l.foldlM assignLeaf below).map (fun below => target ++ [(key, .map below)]) := by
  induction l generalizing below with
  | nil => rfl
  | cons x l ih =>
    rw [List.map_cons, List.foldlM_cons, List.foldlM_cons, assignLeaf_last h below x (hl x List.mem_cons_self)]
    cases assignLeaf below x with
    | none => rfl
    | some below' => exact ih (fun x hx => hl x (List.mem_cons_of_mem _ hx)) below'

theorem foldlM_assignLeaf_below (h : key ∉ target.map Prod.fst) {l : List (List String × Value)}
    (hne : l ≠ []) (hl : ∀ x ∈ l, x.1 ≠ []) :
    (l.map (fun x => (key :: x.1, x.2))).foldlM assignLeaf target =
      (l.foldlM assignLeaf []).map (fun below => target ++ [(key, .map below)]) := by
  cases l with
  | nil => exact absurd rfl hne
  | cons x l =>
    rw [List.map_cons, List.foldlM_cons, List.foldlM_cons, assignLeaf_new h x (hl x List.mem_cons_self)]
    cases assignLeaf [] x with
    | none => rfl
    | some below => exact foldlM_assignLeaf_last h (fun x hx => hl x (List.mem_cons_of_mem _ hx)) below

theorem notMem_keys_append {keys : List String} (h : ∀ k ∈ keys, k ∉ target.map Prod.fst) (hkey : key ∉ keys)
    {v : Value} :
    ∀ k ∈ keys, k ∉ (target ++ [(key, v)]).map Prod.fst := by
  intro k hk hm
  rw [List.map_append, List.mem_append] at hm
  rcases hm with hm | hm
  · exact h k hk hm
  · cases List.mem_singleton.mp hm
    exact hkey hk

theorem Nested.foldlM_assignLeaf {entries : List (String × Value)} (h : Nested entries)
    {target : List (String × Value)} (hnew : ∀ k ∈ entries.map Prod.fst, k ∉ target.map Prod.fst) :
    (leavesOf entries).foldlM assignLeaf target = some (target ++ entries) := by
  induction h generalizing target with
  | nil =>
    rw [leavesOf, List.append_nil]
    rfl
  | @leaf key v entries hkey hk hv h ih =>
    obtain ⟨hkt, hnew⟩ := List.forall_mem_cons.mp hnew
    have hassign : assignLeaf target ([key], v) = some (target ++ [(key, v)]) := congrArg some (insertEntry_new hkt v)
    rw [leavesOf, leaves_of_not_isMapping hv, List.map_singleton, List.singleton_append, List.foldlM_cons, hassign]
    exact (ih (notMem_keys_append hnew hk)).trans (by simp)
  | @nest key below entries hkey hk hne hbelow h ihb ih =>
    obtain ⟨hkt, hnew⟩ := List.forall_mem_cons.mp hnew
    rw [leavesOf, Value.leaves, List.foldlM_append,
      foldlM_assignLeaf_below hkt (hbelow.leavesOf_ne_nil hne) (fun x hx => path_ne_nil_of_mem hx),
      ihb (fun k _ => List.not_mem_nil)]
    exact (ih (notMem_keys_append hnew hk)).trans (by simp)

end Refill

section Assign

variable {entries : List (String × Value)} {key : String} {v : Value}

def Value.Item (v : Value) : Prop := v.isMapping = false ∨ ∃ below, v = .map below ∧ below ≠ [] ∧ Nested below

theorem nested_cons_iff : Nested ((key, v) :: entries) ↔
    IsPart key ∧ key ∉ entries.map Prod.fst ∧ v.Item ∧ Nested entries := by
  constructor
  · intro h
    cases h with
    | leaf hkey hnew hv h => exact ⟨hkey, hnew, .inl hv, h⟩
    | nest hkey hnew hne hbelow h => exact ⟨hkey, hnew, .inr ⟨_, rfl, hne, hbelow⟩, h⟩
  · rintro ⟨hkey, hnew, hv | ⟨below, rfl, hne, hbelow⟩, h⟩
    · exact .leaf hkey hnew hv h
    · exact .nest hkey hnew hne hbelow h

theorem nested_iff : Nested entries ↔ (entries.map Prod.fst).Nodup ∧ ∀ e ∈ entries, IsPart e.1 ∧ e.2.Item := by
  induction entries with
  | nil => simpa using Nested.nil
  | cons e entries ih =>
    rw [nested_cons_iff, ih, List.map_cons, List.nodup_cons, List.forall_mem_cons]
    tauto

theorem Value.Item.leaves_ne_nil (h : v.Item) : v.leaves ≠ [] := by
  rcases h with hv | ⟨below, rfl, hne, hbelow⟩
  · rw [leaves_of_not_isMapping hv]
    exact List.cons_ne_nil _ _
  · rw [leaves]
    exact hbelow.leavesOf_ne_nil hne

theorem Nested.insertEntry (h : Nested entries) (hkey : IsPart key) (hv : v.Item) :
    Nested (insertEntry key v entries) := by
  obtain ⟨hn, hall⟩ := nested_iff.mp h
  refine nested_iff.mpr ⟨(Dict.set ⟨entries, hn⟩ key v).nodup, ?_⟩
  intro e he
  rcases (mem_insertEntry hn).mp he with rfl | ⟨-, he⟩
  · exact ⟨hkey, hv⟩
  · exact hall e he

theorem mem_leavesOf_insertEntry (hn : (entries.map Prod.fst).Nodup) (added : List String × Value)
    (hv : ∀ l, l ∈ v.leaves ↔ l = added ∨ ∃ old, entries.lookup key = some old ∧ l ∈ old.leaves)
    (l : List String × Value) :
    l ∈ leavesOf (insertEntry key v entries) ↔ l = (key :: added.1, added.2) ∨ l ∈ leavesOf entries := by
  simp only [mem_leavesOf, mem_insertEntry hn]
  constructor
  · rintro ⟨e, rfl | ⟨-, he⟩, l', hl', rfl⟩
    · rcases (hv l').mp hl' with rfl | ⟨old, hold, hl'⟩
      · exact .inl rfl
      · exact .inr ⟨(key, old), (lookup_eq_some_iff hn).mp hold, l', hl', rfl⟩
    · exact .inr ⟨e, he, l', hl', rfl⟩
  · rintro (rfl | ⟨e, he, l', hl', rfl⟩)
    · exact ⟨(key, v), .inl rfl, added, (hv added).mpr (.inl rfl), rfl⟩
    · by_cases hk : e.1 = key
      · subst hk
        exact ⟨(e.1, v), .inl rfl, l', (hv l').mpr (.inr ⟨e.2, (lookup_eq_some_iff hn).mpr he, hl'⟩), rfl⟩
      · exact ⟨e, .inr ⟨hk, he⟩, l', hl', rfl⟩

def setdefault (target : List (String × Value)) (part : String) : Option (List (String × Value)) :=
  match target.lookup part with
  | none => some []
  | some (.map below) => some below
  | some _ => none

theorem assign_cons (target : List (String × Value)) (part next : String) (v : Value) (rest : List String) :
    assign target part v (next :: rest) = (setdefault target part).bind
      (fun below => (assign below next v rest).map (fun below => insertEntry part (.map below) target)) := by
  rw [assign, setdefault]
  cases target.lookup part with
  | none => rfl
  | some item => cases item <;> rfl

theorem setdefault_leaves {root : List (String × Value)} (hroot : Nested root) {part : String} {path : List String}
    (hapart : ∀ l ∈ leavesOf root, Apart l.1 (part :: path)) : ∃ below, setdefault root part = some below ∧
      Nested below ∧ ∀ l, l ∈ leavesOf below ↔ ∃ old, root.lookup part = some old ∧ l ∈ old.leaves := by
  obtain ⟨hn, hall⟩ := nested_iff.mp hroot
  unfold setdefault
  cases hl : root.lookup part with
  | none => exact ⟨[], rfl, .nil, fun l => by simp [leavesOf]⟩
  | some item =>
    have he := (lookup_eq_some_iff hn).mp hl
    rcases (hall _ he).2 with hv | ⟨below, rfl, -, hbelow⟩
    · have hmem : ([part], item) ∈ leavesOf root :=
        mem_leavesOf.mpr ⟨_, he, ([], item), by simp [leaves_of_not_isMapping hv], rfl⟩
      exact absurd (List.cons_prefix_cons.mpr ⟨rfl, List.nil_prefix⟩) (hapart _ hmem).1
    · refine ⟨below, rfl, hbelow, fun l => ?_⟩
      simp [Value.leaves]

theorem assign_leaves {root : List (String × Value)} (hroot : Nested root) {part : String} {rest : List String}
    (hparts : ∀ key ∈ part :: rest, IsPart key) (hv : v.isMapping = false)
    (hapart : ∀ l ∈ leavesOf root, Apart l.1 (part :: rest)) :
    ∃ root', assign root part v rest = some root' ∧ Nested root' ∧
      ∀ l, l ∈ leavesOf root' ↔ l = (part :: rest, v) ∨ l ∈ leavesOf root := by
  have hn := (nested_iff.mp hroot).1
  obtain ⟨hpart, hrest⟩ := List.forall_mem_cons.mp hparts
  induction rest generalizing root part with
  | nil =>
    -- an item at the path would have a leaf, and the path would lead to it
    have hnone : root.lookup part = none := by
      cases hl : root.lookup part with
      | none => rfl
      | some item =>
        have he := (lookup_eq_some_iff hn).mp hl
        obtain ⟨l, hmem⟩ := List.exists_mem_of_ne_nil _ ((nested_iff.mp hroot).2 _ he).2.leaves_ne_nil
        have hfree := hapart _ (mem_leavesOf.mpr ⟨_, he, l, hmem, rfl⟩)
        exact absurd (List.cons_prefix_cons.mpr ⟨rfl, List.nil_prefix⟩) hfree.2
    refine ⟨insertEntry part v root, rfl, hroot.insertEntry hpart (.inl hv), ?_⟩
    refine mem_leavesOf_insertEntry hn ([], v) (fun l => ?_)
    simp [leaves_of_not_isMapping hv, hnone]
  | cons next rest ih =>
    obtain ⟨below, hbelow, hnested, hat⟩ := setdefault_leaves hroot hapart
    have hbelowApart : ∀ l ∈ leavesOf below, Apart l.1 (next :: rest) := by
      intro l hl
      obtain ⟨old, hold, hl⟩ := (hat l).mp hl
      exact apart_cons_iff.mp (hapart _ (mem_leavesOf.mpr ⟨_, (lookup_eq_some_iff hn).mp hold, l, hl, rfl⟩))
    obtain ⟨below', hassign, hbelow', hleaves⟩ := ih hnested hrest hbelowApart (nested_iff.mp hnested).1
      (hrest next List.mem_cons_self) (List.forall_mem_cons.mp hrest).2
    refine ⟨insertEntry part (.map below') root, ?_, hroot.insertEntry hpart (.inr ⟨below', rfl, ?_, hbelow'⟩), ?_⟩
    · rw [assign_cons, hbelow, Option.bind_some, hassign, Option.map_some]
    · rintro rfl
      have hmem := (hleaves (next :: rest, v)).mpr (.inl rfl)
      rw [leavesOf] at hmem
      exact List.not_mem_nil hmem
    · refine mem_leavesOf_insertEntry hn (next :: rest, v) (fun l => ?_)
      rw [Value.leaves, hleaves, hat]

end Assign

theorem foldlM_assignLeaf_leaves {l : List (List String × Value)} (hpath : ∀ x ∈ l, x.1 ≠ [] ∧ ∀ key ∈ x.1, IsPart key)
    (hleaf : ∀ x ∈ l, x.2.isMapping = false) (hapart : l.Pairwise (fun x y => Apart x.1 y.1))
    {root : List (String × Value)} (hroot : Nested root) (hfree : ∀ x ∈ leavesOf root, ∀ y ∈ l, Apart x.1 y.1) :
    ∃ root', l.foldlM assignLeaf root = some root' ∧ Nested root' ∧
      ∀ x, x ∈ leavesOf root' ↔ x ∈ l ∨ x ∈ leavesOf root := by
  induction l generalizing root with
  | nil => exact ⟨root, rfl, hroot, fun x => by simp⟩
  | cons y l ih =>
    obtain ⟨path, v⟩ := y
    rw [List.forall_mem_cons] at hpath hleaf
    obtain ⟨hnew, hrest⟩ := List.pairwise_cons.mp hapart
    cases path with
    | nil => exact absurd rfl hpath.1.1
    | cons part rest =>
      obtain ⟨root₁, h₁, hroot₁, hleaves₁⟩ := assign_leaves hroot hpath.1.2 hleaf.1
        (fun x hx => hfree x hx _ List.mem_cons_self)
      have hfree₁ : ∀ x ∈ leavesOf root₁, ∀ y ∈ l, Apart x.1 y.1 := by
        intro x hx y hy
        rcases (hleaves₁ x).mp hx with rfl | hx
        · exact hnew y hy
        · exact hfree x hx y (List.mem_cons_of_mem _ hy)
      obtain ⟨root', h', hroot', hleaves'⟩ := ih hpath.2 hleaf.2 hrest hroot₁ hfree₁
      refine ⟨root', ?_, hroot', fun x => ?_⟩
      · rw [List.foldlM_cons]
        exact (Option.bind_eq_some_iff).mpr ⟨root₁, h₁, h'⟩
      · rw [hleaves', hleaves₁, List.mem_cons]
        tauto

section Inverse

theorem Nested.paths_nodup {entries : List (String × Value)} (h : Nested entries) :
    ((leavesOf entries).map (fun l => settingPath "" l.1)).Nodup := by
  refine List.pairwise_map.mpr (h.leaves_apart.imp_of_mem ?_)
  intro l l' hl hl' hp he
  have hparts := congrArg parts he
  rw [parts_settingPath (path_ne_nil_of_mem hl) (h.isPart_of_mem l hl),
    parts_settingPath (path_ne_nil_of_mem hl') (h.isPart_of_mem l' hl')] at hparts
  exact hp.1 (hparts ▸ List.prefix_rfl)

structure NestedMapping where
  entries : List (String × Value)
  nested : Nested entries

structure PathMapping where
  settings : Dict String Value
  parts_nonempty : ∀ path ∈ settings.keys, "" ∉ parts path
  leaf : ∀ v ∈ settings.values, v.isMapping = false
  apart : ∀ p ∈ settings.keys, ∀ q ∈ settings.keys, ¬DottedPrefix p q

theorem NestedMapping.inflate_flatten (d : NestedMapping) : inflate (flatten d.entries) = some d.entries := by
  have hparts : (leavesOf d.entries).map (fun l => (parts (settingPath "" l.1), l.2)) = leavesOf d.entries := by
    refine (List.map_congr_left fun l hl => ?_).trans (List.map_id _)
    rw [parts_settingPath (path_ne_nil_of_mem hl) (d.nested.isPart_of_mem l hl)]
    rfl
  rw [inflate_eq, flatten_entries d.nested.paths_nodup, List.map_map]
  exact (congrArg (List.foldlM assignLeaf []) hparts).trans (d.nested.foldlM_assignLeaf (fun k _ => List.not_mem_nil))

theorem PathMapping.paths_apart (m : PathMapping) :
    (m.settings.entries.map (fun e => (parts e.1, e.2))).Pairwise (fun x y => Apart x.1 y.1) := by
  have hnodup : m.settings.entries.Pairwise (fun e e' => e.1 ≠ e'.1) := List.pairwise_map.mp m.settings.nodup
  refine List.pairwise_map.mpr (hnodup.imp_of_mem ?_)
  intro e e' he he' hne
  have hk : e.1 ∈ m.settings.keys := List.mem_map_of_mem he
  have hk' : e'.1 ∈ m.settings.keys := List.mem_map_of_mem he'
  exact ⟨fun hp => m.apart _ hk _ hk' (dottedPrefix_of_parts (m.parts_nonempty _ hk') hne hp),
    fun hp => m.apart _ hk' _ hk (dottedPrefix_of_parts (m.parts_nonempty _ hk) (Ne.symm hne) hp)⟩

theorem PathMapping.inflate_leaves (m : PathMapping) : ∃ d : NestedMapping, inflate m.settings = some d.entries ∧
    ∀ l, l ∈ leavesOf d.entries ↔ ∃ e ∈ m.settings.entries, (parts e.1, e.2) = l := by
  have hpath : ∀ x ∈ m.settings.entries.map (fun e => (parts e.1, e.2)), x.1 ≠ [] ∧ ∀ key ∈ x.1, IsPart key := by
    intro x hx
    obtain ⟨e, he, rfl⟩ := List.mem_map.mp hx
    exact ⟨List.cons_ne_nil _ _, fun key hkey =>
      isPart_of_mem_parts (m.parts_nonempty e.1 (List.mem_map_of_mem he)) hkey⟩
  have hleaf : ∀ x ∈ m.settings.entries.map (fun e => (parts e.1, e.2)), x.2.isMapping = false := by
    intro x hx
    obtain ⟨e, he, rfl⟩ := List.mem_map.mp hx
    exact m.leaf e.2 (List.mem_map_of_mem he)
  have hfree : ∀ x ∈ leavesOf [], ∀ y ∈ m.settings.entries.map (fun e => (parts e.1, e.2)), Apart x.1 y.1 := by
    simp [leavesOf]
  obtain ⟨root, hroot, hnested, hleaves⟩ := foldlM_assignLeaf_leaves hpath hleaf m.paths_apart .nil hfree
  refine ⟨⟨root, hnested⟩, (inflate_eq _).trans hroot, fun l => ?_⟩
  rw [hleaves, List.mem_map]
  simp [leavesOf]

theorem PathMapping.flatten_inflate (m : PathMapping) : ∃ d : NestedMapping, inflate m.settings = some d.entries ∧
    ∀ path, (flatten d.entries).get? path = m.settings.get? path := by
  obtain ⟨d, hd, hleaves⟩ := m.inflate_leaves
  refine ⟨d, hd, fun path => Option.ext fun v => ?_⟩
  rw [← Dict.mem_entries_iff, ← Dict.mem_entries_iff, flatten_entries d.nested.paths_nodup, List.mem_map]
  constructor
  · rintro ⟨l, hl, he⟩
    obtain ⟨e, hmem, rfl⟩ := (hleaves l).mp hl
    rw [settingPath_parts (m.parts_nonempty e.1 (List.mem_map_of_mem hmem))] at he
    exact he ▸ hmem
  · intro hmem
    refine ⟨(parts path, v), (hleaves _).mpr ⟨(path, v), hmem, rfl⟩, ?_⟩
    rw [settingPath_parts (m.parts_nonempty path (List.mem_map_of_mem hmem))]

theorem flatten_inflate_inverse :
    (∀ d : NestedMapping, inflate (flatten d.entries) = some d.entries) ∧
    ∀ m : PathMapping, ∃ d : NestedMapping, inflate m.settings = some d.entries ∧
      ∀ path, (flatten d.entries).get? path = m.settings.get? path :=
  ⟨NestedMapping.inflate_flatten, PathMapping.flatten_inflate⟩

def brokerSettings : PathMapping where
  settings := Dict.ofList
    [("mqtt.host", .str "broker"), ("auth.mode", .str "token"), ("mqtt.tls.enabled", .bool true),
      ("mqtt.port", .int 8883)]
  parts_nonempty := by decide +kernel
  leaf := by decide +kernel
  apart := by
    have hparts : ∀ p ∈ ["mqtt.host", "auth.mode", "mqtt.tls.enabled", "mqtt.port"],
        ∀ q ∈ ["mqtt.host", "auth.mode", "mqtt.tls.enabled", "mqtt.port"],
        parts p <+: parts q → parts p = parts q := by decide +kernel
    intro p hp q hq h
    exact h.parts.2 (hparts p hp q hq h.parts.1)

example : inflate brokerSettings.settings = some [("mqtt", .map [("host", .str "broker"),
    ("tls", .map [("enabled", .bool true)]), ("port", .int 8883)]), ("auth", .map [("mode", .str "token")])] := rfl

end Inverse

end PitbluCore
