import CodeGraph.Proofs.AcceptedRecords
import CodeGraph.Proofs.NumberLiterals
import Mathlib.Data.String.Basic

namespace CodeGraph.Json

mutual

/-- The tree written without blanks. -/
def Tree.compact : Tree → List Char
  | .null => ['n', 'u', 'l', 'l']
  | .bool true => ['t', 'r', 'u', 'e']
  | .bool false => ['f', 'a', 'l', 's', 'e']
  | .number l => l.chars
  | .text q => q.spelling
  | .list items => '[' :: compactItems items ++ [']']
  | .object members => '\x7b' :: compactMembers members ++ ['\x7d']

def compactItems : List Tree → List Char
  | [] => []
  | [t] => t.compact
  | t :: items => t.compact ++ ',' :: compactItems items

def compactMembers : List (Quoted × Tree) → List Char
  | [] => []
  | [(q, t)] => q.spelling ++ ':' :: t.compact
  | (q, t) :: members => q.spelling ++ ':' :: t.compact ++ ',' :: compactMembers members

end

theorem SpellsRun.comma {α : Type} {spells : α → List Char → Prop} {a : α} {as : List α}
    {cs : List Char} (h : SpellsRun spells true (a :: as) cs) :
    SpellsRun spells false (a :: as) (',' :: cs) := by
  obtain ⟨gap, blanks, used, rest, rfl, hgap, hblanks, hused, hrest⟩ := h
  obtain rfl : gap = [] := hgap
  exact ⟨[','], blanks, used, rest, rfl, ⟨[], rfl, List.forall_mem_nil _⟩, hblanks, hused, hrest⟩

theorem SpellsRun.cons {α : Type} {spells : α → List Char → Prop} {a : α} {as : List α}
    {used rest : List Char} (hused : spells a used) (hrest : SpellsRun spells false as rest) :
    SpellsRun spells true (a :: as) (used ++ rest) :=
  ⟨[], [], used, rest, rfl, rfl, List.forall_mem_nil _, hused, hrest⟩

theorem SpellsRun.nil {α : Type} {spells : α → List Char → Prop} (first : Bool) :
    SpellsRun spells first [] [] :=
  List.forall_mem_nil _

theorem spellsMember_compact {q : Quoted} {t : Tree} {cs : List Char} (h : Spells t cs) :
    SpellsMember (q, t) (q.spelling ++ ':' :: cs) :=
  ⟨[], [], cs, rfl, List.forall_mem_nil _, List.forall_mem_nil _, h⟩

mutual

theorem Tree.spells_compact : (t : Tree) → Spells t t.compact
  | .null => rfl
  | .bool true => rfl
  | .bool false => rfl
  | .number _ => rfl
  | .text _ => rfl
  | .list items => ⟨compactItems items, rfl, spellsItems_eq .. ▸ spellsRun_compactItems items⟩
  | .object members =>
    ⟨compactMembers members, rfl, (spellsMembers_iff ..).2 (spellsRun_compactMembers members)⟩

theorem spellsRun_compactItems :
    (items : List Tree) → SpellsRun Spells true items (compactItems items)
  | [] => .nil _
  | [t] => by
    have h := SpellsRun.cons t.spells_compact (.nil false)
    rw [List.append_nil] at h
    exact h
  | t :: t' :: items => .cons t.spells_compact (spellsRun_compactItems (t' :: items)).comma

theorem spellsRun_compactMembers :
    (members : List (Quoted × Tree)) → SpellsRun SpellsMember true members (compactMembers members)
  | [] => .nil _
  | [(q, t)] => by
    have h := SpellsRun.cons (spellsMember_compact (q := q) t.spells_compact) (.nil false)
    rw [List.append_nil] at h
    exact h
  | (q, t) :: m :: members =>
    .cons (spellsMember_compact t.spells_compact) (spellsRun_compactMembers (m :: members)).comma

end

theorem Tree.writes_compact (t : Tree) : Writes t (String.ofList t.compact) := by
  refine ⟨[], t.compact, [], ?_, List.forall_mem_nil _, t.spells_compact, List.forall_mem_nil _⟩
  rw [String.toList_ofList, List.append_nil]
  rfl

theorem fourHex?_control : ∀ n < 0x20, Reader.fourHex? ('0' :: '0' :: hexPair n) = some n := by
  decide

def Piece.ofChar (c : Char) : Piece :=
  if hquote : c = '"' then .short '"' '"' rfl
  else if hback : c = '\\' then .short '\\' '\\' rfl
  else if c = '\x08' then .short 'b' '\x08' rfl
  else if c = '\x0c' then .short 'f' '\x0c' rfl
  else if c = '\n' then .short 'n' '\n' rfl
  else if c = '\r' then .short 'r' '\r' rfl
  else if c = '\t' then .short 't' '\t' rfl
  else if hcontrol : c.toNat < 0x20 then
    .code ('0' :: '0' :: hexPair c.toNat) c.toNat ⟨rfl, fourHex?_control _ hcontrol⟩
  else .plain c ⟨hquote, hback, Nat.not_lt.1 hcontrol⟩

theorem Piece.chars_ofChar (c : Char) : (Piece.ofChar c).chars = escapeChar c := by
  unfold Piece.ofChar escapeChar
  repeat' split
  all_goals rfl

theorem Quoted.meant?_ofChar (c : Char) (q : Quoted) :
    meant? (Piece.ofChar c :: q) = (meant? q).map (c :: ·) := by
  have hcode (hc : c.toNat < 0x20) :
      meant? (.code ('0' :: '0' :: hexPair c.toNat) c.toNat ⟨rfl, fourHex?_control _ hc⟩ :: q) =
        (meant? q).map (c :: ·) := by
    have hlow : isLowHalf c.toNat = false := by simp only [isLowHalf]; grind
    have hhigh : isHighHalf c.toNat = false := by simp only [isHighHalf]; grind
    cases q with
    | nil => simp [meant?, hlow, hhigh]
    | cons p q => cases p <;> simp [meant?, hlow, hhigh]
  unfold Piece.ofChar
  split
  · next h => rw [h]; rfl
  · split
    · next h => rw [h]; rfl
    · split
      · next h => rw [h]; rfl
      · split
        · next h => rw [h]; rfl
        · split
          · next h => rw [h]; rfl
          · split
            · next h => rw [h]; rfl
            · split
              · next h => rw [h]; rfl
              · split
                · next h => exact hcode h
                · rfl

def Quoted.ofString (s : String) : Quoted := s.toList.map Piece.ofChar

theorem Quoted.text?_ofString (s : String) : (Quoted.ofString s).text? = some s := by
  have hmeant (cs : List Char) : meant? (cs.map Piece.ofChar) = some cs := by
    induction cs with
    | nil => rfl
    | cons c cs ih => rw [List.map_cons, Quoted.meant?_ofChar, ih]; rfl
  rw [Quoted.text?, Quoted.ofString, hmeant, Option.map_some, String.ofList_toList]

theorem Quoted.spelling_ofString (s : String) : (Quoted.ofString s).spelling = renderText s := by
  simp only [Quoted.spelling, Quoted.chars, Quoted.ofString, renderText, List.flatMap_map,
    Piece.chars_ofChar]

/-- What can have been read with `depth` brackets open at once: members in order, one for each key,
and whole numbers of sixty-four bits. -/
def Fits : Nat → Json → Prop
  | _, .null => True
  | _, .bool _ => True
  | _, .text _ => True
  | _, .number (.whole i) => -0x8000000000000000 ≤ i ∧ i < 0x10000000000000000
  | _, .number (.float _) => True
  | 0, .list _ => False
  | 0, .object _ => False
  | depth + 1, .list items => ∀ j ∈ items, Fits depth j
  | depth + 1, .object members =>
    members.Pairwise (fun m m' => m.1 < m'.1) ∧ ∀ m ∈ members, Fits depth m.2

theorem Fits.succ {depth : Nat} {j : Json} (h : j.Fits depth) : j.Fits (depth + 1) := by
  induction depth generalizing j with
  | zero =>
    cases j with
    | null | bool | text => simp [Fits]
    | number n =>
      cases n with
      | whole i => rwa [Fits] at h ⊢
      | float x => simp [Fits]
    | list | object => exact absurd h (by simp [Fits])
  | succ depth ih =>
    cases j with
    | null | bool | text => simp [Fits]
    | number n =>
      cases n with
      | whole i => rwa [Fits] at h ⊢
      | float x => simp [Fits]
    | list items => exact fun j hj => ih (h j hj)
    | object ms => exact ⟨h.1, fun m hm => ih (h.2 m hm)⟩

theorem mem_insertMember {k : String} {v : Json} {m : String × Json} {ms : List (String × Json)}
    (h : m ∈ insertMember k v ms) : m = (k, v) ∨ m ∈ ms := by
  induction ms with
  | nil => exact .inl (List.mem_singleton.1 h)
  | cons m' ms ih =>
    obtain ⟨k', v'⟩ := m'
    rw [insertMember] at h
    split at h
    · exact List.mem_cons.1 h
    · split at h
      · exact (List.mem_cons.1 h).imp id (List.mem_cons_of_mem _)
      · rcases List.mem_cons.1 h with rfl | h
        · exact .inr List.mem_cons_self
        · exact (ih h).imp id (List.mem_cons_of_mem _)

theorem insertMember_pairwise {ms : List (String × Json)} (k : String) (v : Json)
    (h : ms.Pairwise fun m m' => m.1 < m'.1) :
    (insertMember k v ms).Pairwise fun m m' => m.1 < m'.1 := by
  induction ms with
  | nil => exact List.pairwise_singleton _ _
  | cons m ms ih =>
    obtain ⟨k', v'⟩ := m
    obtain ⟨hhead, htail⟩ := List.pairwise_cons.1 h
    rw [insertMember]
    split
    · next hlt =>
      refine List.pairwise_cons.2 ⟨?_, h⟩
      rw [List.forall_mem_cons]
      exact ⟨hlt, fun m hm => lt_trans hlt (hhead m hm)⟩
    · next hnlt =>
      split
      · next heq => exact List.pairwise_cons.2 ⟨fun m hm => heq ▸ hhead m hm, htail⟩
      · next hne =>
        have hgt : k' < k := (lt_trichotomy k k').resolve_left hnlt |>.resolve_left hne
        refine List.pairwise_cons.2 ⟨fun m hm => ?_, ih htail⟩
        rcases mem_insertMember hm with rfl | hm
        · exact hgt
        · exact hhead m hm

/-- A key behind all others is put at the end. -/
theorem insertMember_last {ms : List (String × Json)} {k : String} (v : Json)
    (h : ∀ m ∈ ms, m.1 < k) : insertMember k v ms = ms ++ [(k, v)] := by
  induction ms with
  | nil => rfl
  | cons m ms ih =>
    obtain ⟨k', v'⟩ := m
    obtain ⟨hlt, htail⟩ := List.forall_mem_cons.1 h
    rw [insertMember, if_neg (lt_asymm hlt), if_neg (ne_of_gt hlt), ih htail, List.cons_append]

/-- What objects of read values keep: members in order, with values that were read. -/
theorem foldlM_addMember? {f : Tree → Option Json} {P : Json → Prop}
    (hf : ∀ t j, f t = some j → P j) {members : List (Quoted × Tree)}
    {read ms : List (String × Json)} (h : members.foldlM (Tree.addMember? f) read = some ms)
    (hsorted : read.Pairwise fun m m' => m.1 < m'.1) (hread : ∀ m ∈ read, P m.2) :
    ms.Pairwise (fun m m' => m.1 < m'.1) ∧ ∀ m ∈ ms, P m.2 := by
  induction members generalizing read with
  | nil =>
    obtain rfl := Option.some.inj h
    exact ⟨hsorted, hread⟩
  | cons m members ih =>
    rw [List.foldlM_cons] at h
    obtain ⟨read', hadd, h⟩ := Option.bind_eq_some_iff.1 h
    obtain ⟨k, -, hadd⟩ := Option.bind_eq_some_iff.1 hadd
    obtain ⟨v, hv, hadd⟩ := Option.bind_eq_some_iff.1 hadd
    obtain rfl := Option.some.inj hadd
    refine ih h (insertMember_pairwise k v hsorted) fun m hm => ?_
    rcases mem_insertMember hm with rfl | hm
    · exact hf _ _ hv
    · exact hread m hm

theorem Tree.fits_of_valueWith? {depth : Nat} {list : List Tree → Option Json}
    {object : List (Quoted × Tree) → Option Json}
    (hlist : ∀ items j, list items = some j → j.Fits depth)
    (hobject : ∀ members j, object members = some j → j.Fits depth) {t : Tree} {j : Json}
    (h : valueWith? list object t = some j) : j.Fits depth := by
  cases t with
  | null =>
    obtain rfl := Option.some.inj h
    simp [Fits]
  | bool b =>
    obtain rfl := Option.some.inj h
    simp [Fits]
  | number l =>
    obtain ⟨n, hn, rfl⟩ := Option.map_eq_some_iff.1 h
    cases n with
    | float x => simp [Fits]
    | whole i =>
      rw [Fits]
      exact (Literal.number?_eq_whole_iff.1 hn).2
  | text q =>
    obtain ⟨s, -, rfl⟩ := Option.map_eq_some_iff.1 h
    simp [Fits]
  | list items => exact hlist items j h
  | object members => exact hobject members j h

theorem Tree.fits_of_json? {depth : Nat} {t : Tree} {j : Json} (h : t.json? depth = some j) :
    j.Fits depth := by
  induction depth generalizing t j with
  | zero =>
    exact fits_of_valueWith? (fun _ j h => nomatch (show none = some j from h))
      (fun _ j h => nomatch (show none = some j from h)) h
  | succ depth ih =>
    refine fits_of_valueWith? (fun items j h => ?_) (fun members j h => ?_) h
    · obtain ⟨js, hjs, rfl⟩ := Option.map_eq_some_iff.1 h
      intro j hj
      obtain ⟨i, hi⟩ := List.mem_iff_getElem?.1 hj
      obtain ⟨t, -, ht⟩ := forall₂_getElem? (Tree.mapM_eq_some_iff.1 hjs).flip hi
      exact ih ht
    · obtain ⟨ms, hms, rfl⟩ := Option.map_eq_some_iff.1 h
      exact foldlM_addMember? (fun _ _ h => ih h) hms .nil (List.forall_mem_nil _)

/-- No number in the value is a float. -/
inductive IsIntegral : Json → Prop
  | null : IsIntegral .null
  | bool (b : Bool) : IsIntegral (.bool b)
  | whole (i : Int) : IsIntegral (.number (.whole i))
  | text (s : String) : IsIntegral (.text s)
  | list {items : List Json} (h : ∀ j ∈ items, IsIntegral j) : IsIntegral (.list items)
  | object {members : List (String × Json)} (h : ∀ m ∈ members, IsIntegral m.2) :
      IsIntegral (.object members)

/-- The value has a compact text that some tree spells and `f` takes back. -/
def IsWritten (f : Tree → Option Json) (j : Json) : Prop :=
  ∃ t : Tree, t.compact = j.renderChars ∧ f t = some j

theorem exists_compactItems {f : Tree → Option Json} :
    (items : List Json) → (∀ j ∈ items, IsWritten f j) →
      ∃ ts, compactItems ts = renderItems items ∧ ts.mapM f = some items
  | [], _ => ⟨[], rfl, rfl⟩
  | [j], h => by
    obtain ⟨t, hcompact, hf⟩ := h j List.mem_cons_self
    exact ⟨[t], hcompact, by rw [Reader.mapM_cons_eq, hf]; rfl⟩
  | j :: j' :: items, h => by
    obtain ⟨⟨t, hcompact, hf⟩, hrest⟩ := List.forall_mem_cons.1 h
    obtain ⟨ts, hts, hmap⟩ := exists_compactItems (j' :: items) hrest
    cases ts with
    | nil => exact absurd hmap (by simp)
    | cons t' ts =>
      refine ⟨t :: t' :: ts, ?_, by rw [Reader.mapM_cons_eq, hf, hmap]; rfl⟩
      simp only [compactItems, renderItems, hcompact] at hts ⊢
      rw [hts]

theorem addMember?_ofString {f : Tree → Option Json} {t : Tree} {k : String} {j : Json}
    (hf : f t = some j) {read : List (String × Json)} (hlast : ∀ m ∈ read, m.1 < k) :
    Tree.addMember? f read (Quoted.ofString k, t) = some (read ++ [(k, j)]) := by
  simp only [Tree.addMember?, Quoted.text?_ofString, hf, Option.bind_eq_bind, Option.bind_some,
    insertMember_last j hlast]
  rfl

theorem exists_compactMembers {f : Tree → Option Json} :
    (ms read : List (String × Json)) → (∀ m ∈ ms, IsWritten f m.2) →
      (read ++ ms).Pairwise (fun m m' => m.1 < m'.1) →
      ∃ members, compactMembers members = renderMembers ms ∧
        members.foldlM (Tree.addMember? f) read = some (read ++ ms)
  | [], read, _, _ => ⟨[], rfl, by rw [List.append_nil]; rfl⟩
  | [(k, j)], read, h, hsorted => by
    obtain ⟨t, hcompact, hf⟩ := h (k, j) List.mem_cons_self
    have hlast : ∀ x ∈ read, x.1 < k := fun x hx =>
      (List.pairwise_append.1 hsorted).2.2 x hx (k, j) List.mem_cons_self
    refine ⟨[(Quoted.ofString k, t)], ?_, ?_⟩
    · rw [compactMembers, renderMembers, hcompact, Quoted.spelling_ofString]
    · rw [List.foldlM_cons, addMember?_ofString hf hlast]
      rfl
  | (k, j) :: m :: ms, read, h, hsorted => by
    obtain ⟨⟨t, hcompact, hf⟩, hrest⟩ := List.forall_mem_cons.1 h
    have hlast : ∀ x ∈ read, x.1 < k := fun x hx =>
      (List.pairwise_append.1 hsorted).2.2 x hx (k, j) List.mem_cons_self
    have happend : read ++ (k, j) :: m :: ms = (read ++ [(k, j)]) ++ m :: ms := by simp
    rw [happend] at hsorted ⊢
    obtain ⟨members, hmembers, hfold⟩ :=
      exists_compactMembers (m :: ms) (read ++ [(k, j)]) hrest hsorted
    cases members with
    | nil => exact absurd hfold (by simp)
    | cons m' members =>
      refine ⟨(Quoted.ofString k, t) :: m' :: members, ?_, ?_⟩
      · rw [compactMembers, renderMembers, hcompact, hmembers, Quoted.spelling_ofString]
        · exact List.cons_ne_nil _ _
        · exact List.cons_ne_nil _ _
      · rw [List.foldlM_cons, addMember?_ofString hf hlast]
        exact hfold

theorem isWritten_valueWith? {depth : Nat} {list : List Tree → Option Json}
    {object : List (Quoted × Tree) → Option Json} {j : Json} (hfits : j.Fits depth)
    (hj : j.IsIntegral)
    (hlist : ∀ items, j = .list items →
      ∃ ts, compactItems ts = renderItems items ∧ list ts = some j)
    (hobject : ∀ ms, j = .object ms →
      ∃ members, compactMembers members = renderMembers ms ∧ object members = some j) :
    IsWritten (Tree.valueWith? list object) j := by
  cases hj with
  | null => exact ⟨.null, rfl, rfl⟩
  | bool b => exact ⟨.bool b, by cases b <;> rfl, rfl⟩
  | whole i =>
    rw [Fits] at hfits
    refine ⟨.number (.ofInt i), Literal.chars_ofInt i, ?_⟩
    rw [Tree.valueWith?, Literal.number?_eq_whole_iff.2 ⟨Literal.chars_ofInt i, hfits⟩]
    rfl
  | text s =>
    refine ⟨.text (.ofString s), Quoted.spelling_ofString s, ?_⟩
    rw [Tree.valueWith?, Quoted.text?_ofString]
    rfl
  | @list items _ =>
    obtain ⟨ts, hcompact, hts⟩ := hlist items rfl
    exact ⟨.list ts, by rw [Tree.compact, hcompact]; rfl, hts⟩
  | @object ms _ =>
    obtain ⟨members, hcompact, hmembers⟩ := hobject ms rfl
    exact ⟨.object members, by rw [Tree.compact, hcompact]; rfl, hmembers⟩

/-- A value that fits and has no floats is written by a tree that gives it again. -/
theorem isWritten_json? {depth : Nat} {j : Json} (hfits : j.Fits depth) (hj : j.IsIntegral) :
    IsWritten (Tree.json? depth) j := by
  induction depth generalizing j with
  | zero =>
    refine isWritten_valueWith? hfits hj ?_ ?_
    · rintro items rfl
      exact absurd hfits (by simp [Fits])
    · rintro ms rfl
      exact absurd hfits (by simp [Fits])
  | succ depth ih =>
    refine isWritten_valueWith? hfits hj ?_ ?_
    · rintro items rfl
      cases hj with
      | list hitems =>
        obtain ⟨ts, hcompact, hmap⟩ :=
          exists_compactItems items fun j h => ih (hfits j h) (hitems j h)
        exact ⟨ts, hcompact, by rw [hmap]; rfl⟩
    · rintro ms rfl
      cases hj with
      | object hms =>
        obtain ⟨hsorted, hvalues⟩ := hfits
        obtain ⟨members, hcompact, hfold⟩ :=
          exists_compactMembers ms [] (fun m h => ih (hvalues m h) (hms m h)) hsorted
        exact ⟨members, hcompact, by rw [hfold]; rfl⟩

/-- The text of a value that was read and has no floats is the compact text of a tree, and reads
back. -/
theorem run_render {depth : Nat} {j : Json} (hfits : j.Fits depth) (hj : j.IsIntegral) :
    (∃ t : Tree, j.render = String.ofList t.compact) ∧
      Reader.run (Reader.value depth) j.render = .ok j := by
  obtain ⟨t, hcompact, ht⟩ := isWritten_json? hfits hj
  have hrender : j.render = String.ofList t.compact := by rw [hcompact, render]
  refine ⟨⟨t, hrender⟩, ?_⟩
  rw [hrender]
  exact (Reader.run_eq_ok_iff (.value depth) (.value depth)).2 ⟨t, t.writes_compact, ht⟩

end CodeGraph.Json
