import CodeGraph.Layout

namespace CodeGraph

variable {β : Type}

/-- What every force and every move leaves of a body. -/
structure Body.Kept (b c : Body β) : Prop where
  mass : c.mass = b.mass
  pinned : c.pinned = b.pinned
  place : b.pinned = true → c.position = b.position

namespace Body

theorem Kept.refl (b : Body β) : b.Kept b := ⟨rfl, rfl, fun _ => rfl⟩

theorem Kept.trans {b c d : Body β} (h : b.Kept c) (h' : c.Kept d) : b.Kept d where
  mass := h'.mass.trans h.mass
  pinned := h'.pinned.trans h.pinned
  place hb := (h'.place (h.pinned.trans hb)).trans (h.place hb)

variable [Scalar β]

/-- A force alone moves nothing. -/
theorem accelerate_kept (f : Forces β) (dt : β) (force : Point β) (b : Body β) :
    b.Kept (b.accelerate f dt force) := ⟨rfl, rfl, fun _ => rfl⟩

theorem accelerateFree_kept (f : Forces β) (dt : β) (force : Point β) (b : Body β) :
    b.Kept (b.accelerateFree f dt force) := by
  unfold accelerateFree
  split
  · exact .refl b
  · exact accelerate_kept f dt force b

theorem move_kept (f : Forces β) (dt : β) (b : Body β) : b.Kept (b.move f dt) := by
  unfold move
  split
  · exact .refl b
  · next h => exact ⟨rfl, rfl, fun hb => absurd hb h⟩

end Body

/-- What an update leaves of a layout. -/
structure Layout.Kept (l m : Layout β) : Prop where
  forces : m.forces = l.forces
  springs : m.springs = l.springs
  size : m.bodies.size = l.bodies.size
  body : ∀ (i : Nat) (b : Body β), l.bodies[i]? = some b → ∃ c, m.bodies[i]? = some c ∧ b.Kept c

namespace Layout

theorem Kept.refl (l : Layout β) : l.Kept l := ⟨rfl, rfl, rfl, fun _ b h => ⟨b, h, .refl b⟩⟩

theorem Kept.trans {l m n : Layout β} (h : l.Kept m) (h' : m.Kept n) : l.Kept n where
  forces := h'.forces.trans h.forces
  springs := h'.springs.trans h.springs
  size := h'.size.trans h.size
  body i b hb := by
    obtain ⟨c, hc, hbc⟩ := h.body i b hb
    obtain ⟨d, hd, hcd⟩ := h'.body i c hc
    exact ⟨d, hd, hbc.trans hcd⟩

theorem Kept.foldl {ι : Type} {f : Layout β → ι → Layout β}
    (hf : ∀ (l : Layout β) (j : ι), l.Kept (f l j))
    (js : List ι) (l : Layout β) : l.Kept (js.foldl f l) := by
  induction js generalizing l with
  | nil => exact .refl l
  | cons j js ih => exact (hf l j).trans (ih (f l j))

@[simp] theorem modify_size (l : Layout β) (i : Nat) (f : Body β → Body β) :
    (l.modify i f).bodies.size = l.bodies.size := by
  simp [modify]

theorem modify_body (l : Layout β) (i j : Nat) (f : Body β → Body β) :
    (l.modify i f).bodies[j]? = if i = j then l.bodies[j]?.map f else l.bodies[j]? := by
  simp [modify, Array.getElem?_modify]

theorem modify_kept (l : Layout β) (i : Nat) {f : Body β → Body β}
    (hf : ∀ b : Body β, b.Kept (f b)) : l.Kept (l.modify i f) where
  forces := rfl
  springs := rfl
  size := modify_size l i f
  body j b hb := by
    rw [modify_body, hb]
    by_cases hij : i = j
    · exact ⟨f b, by simp [hij], hf b⟩
    · exact ⟨b, by simp [hij], .refl b⟩

theorem Kept.isPinned {l m : Layout β} (h : l.Kept m) (i : Nat) : m.isPinned i = l.isPinned i := by
  cases hb : l.bodies[i]? with
  | none =>
    have hm : m.bodies[i]? = none := by
      rw [Array.getElem?_eq_none_iff] at hb ⊢
      rw [h.size]
      exact hb
    simp [Layout.isPinned, hb, hm]
  | some b =>
    obtain ⟨c, hc, hbc⟩ := h.body i b hb
    simp [Layout.isPinned, hb, hc, hbc.pinned]

theorem isPinned_lt {l : Layout β} {i : Nat} (h : l.isPinned i = true) : i < l.bodies.size := by
  rcases Nat.lt_or_ge i l.bodies.size with hi | hi
  · exact hi
  · simp [isPinned, Array.getElem?_eq_none hi] at h

@[simp] theorem pin_size (l : Layout β) (i : Nat) (p : Point β) :
    (l.pin i p).bodies.size = l.bodies.size := modify_size l i _

@[simp] theorem release_size (l : Layout β) (i : Nat) :
    (l.release i).bodies.size = l.bodies.size := modify_size l i _

theorem pin_isPinned (l : Layout β) {i : Nat} (hi : i < l.bodies.size) (p : Point β) (j : Nat) :
    (l.pin i p).isPinned j = true ↔ j = i ∨ l.isPinned j = true := by
  unfold pin isPinned
  rw [modify_body]
  by_cases hij : i = j
  · subst hij
    simp [Array.getElem?_eq_getElem hi]
  · simp [hij, Ne.symm hij]

theorem release_isPinned (l : Layout β) (i j : Nat) :
    (l.release i).isPinned j = true ↔ j ≠ i ∧ l.isPinned j = true := by
  unfold release isPinned
  rw [modify_body]
  by_cases hij : i = j
  · subst hij
    cases l.bodies[i]? <;> simp
  · simp [hij, Ne.symm hij]

variable [Scalar β]

theorem pull_kept (dt : β) (i : Nat) (l : Layout β) (j : Nat) : l.Kept (l.pull dt i j) := by
  unfold pull
  split
  · exact modify_kept l i fun b => b.accelerate_kept _ _ _
  · exact .refl l

theorem push_kept (dt : β) (i : Nat) (l : Layout β) (j : Nat) : l.Kept (l.push dt i j) := by
  unfold push
  split
  · exact (modify_kept l i fun b => b.accelerateFree_kept _ _ _).trans
      (modify_kept _ j fun b => b.accelerateFree_kept _ _ _)
  · exact .refl l

theorem handle_kept (dt : β) (l : Layout β) (i : Nat) : l.Kept (l.handle dt i) :=
  ((Kept.foldl (pull_kept dt i) _ l).trans (Kept.foldl (push_kept dt i) _ _)).trans
    (modify_kept _ i fun b => b.move_kept _ _)

/-- An update adds, removes, pins and releases nothing, and a pinned body stays where it is. -/
theorem update_kept (dt : β) (l : Layout β) : l.Kept (l.update dt) :=
  Kept.foldl (handle_kept dt) _ l

end Layout

end CodeGraph
