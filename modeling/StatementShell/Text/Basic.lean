-- Text is a list of characters, counted by code point. Everything the shell reads, keeps
-- and writes is text in this sense; strings appear only as literals and at the edges of
-- the program.

namespace StatementShell

/-- A piece of text, one code point after the other. -/
abbrev Text := List Char

/-- A literal stands for its characters. -/
instance : Coe String Text := ⟨String.toList⟩

namespace Text

/-- A set of code points, given as inclusive ranges. -/
abbrev Ranges := List (Nat × Nat)

/-- Whether a code point lies in one of the ranges. -/
def Ranges.has (rs : Ranges) (n : Nat) : Bool :=
  rs.any (fun r => decide (r.1 ≤ n) && decide (n ≤ r.2))

/-- The pieces of a text between copies of a separator: one more piece than separators. -/
def pieces (sep : Char) : Text → List Text
  | [] => [[]]
  | c :: r =>
    if c = sep then [] :: pieces sep r
    else
      match pieces sep r with
      | [] => [[c]]
      | p :: ps => (c :: p) :: ps

/-- The texts one after the other, with a separator between neighbours. -/
def joined (sep : Text) : List Text → Text
  | [] => []
  | [t] => t
  | t :: ts => t ++ sep ++ joined sep ts

theorem pieces_ne_nil (sep : Char) (t : Text) : pieces sep t ≠ [] := by
  cases t with
  | nil => simp [pieces]
  | cons c r =>
    simp only [pieces]
    split
    · simp
    · split <;> simp

/-- Cutting and joining again loses nothing. -/
theorem joined_pieces (sep : Char) (t : Text) : joined [sep] (pieces sep t) = t := by
  induction t with
  | nil => rfl
  | cons c r ih =>
    simp only [pieces]
    split
    next h =>
      subst h
      cases hp : pieces c r with
      | nil => exact absurd hp (pieces_ne_nil c r)
      | cons p ps =>
        rw [hp] at ih
        simp [joined, ih]
    next h =>
      cases hp : pieces sep r with
      | nil => exact absurd hp (pieces_ne_nil sep r)
      | cons p ps =>
        rw [hp] at ih
        cases ps <;> simp [joined] at ih ⊢ <;> exact ih

theorem pieces_append_sep {sep : Char} {t : Text} (h : sep ∉ t) (u : Text) :
    pieces sep (t ++ sep :: u) = t :: pieces sep u := by
  induction t with
  | nil => simp [pieces]
  | cons c r ih =>
    have hc : c ≠ sep := fun e => h (by simp [e])
    rw [List.cons_append, pieces, if_neg hc, ih (fun hr => h (List.mem_cons_of_mem c hr))]

theorem pieces_of_notMem {sep : Char} {t : Text} (h : sep ∉ t) : pieces sep t = [t] := by
  induction t with
  | nil => rfl
  | cons c r ih =>
    have hc : c ≠ sep := fun e => h (by simp [e])
    rw [pieces, if_neg hc, ih (fun hr => h (List.mem_cons_of_mem c hr))]

theorem notMem_of_mem_pieces {sep : Char} {t p : Text} (h : p ∈ pieces sep t) : sep ∉ p := by
  induction t generalizing p with
  | nil =>
    rw [List.mem_singleton.1 h]
    simp
  | cons c r ih =>
    simp only [pieces] at h
    split at h
    next =>
      rcases List.mem_cons.1 h with rfl | h
      · simp
      · exact ih h
    next hc =>
      split at h
      next =>
        rw [List.mem_singleton.1 h]
        simpa using fun e => hc e.symm
      next q qs hq =>
        rw [hq] at ih
        rcases List.mem_cons.1 h with rfl | h
        · have := ih (List.mem_cons_self)
          simp only [List.mem_cons, not_or]
          exact ⟨fun e => hc e.symm, this⟩
        · exact ih (List.mem_cons_of_mem q h)

/-- Joining and cutting again gives the same pieces. -/
theorem pieces_joined {sep : Char} {ts : List Text} (hne : ts ≠ []) (h : ∀ t ∈ ts, sep ∉ t) :
    pieces sep (joined [sep] ts) = ts := by
  induction ts with
  | nil => exact absurd rfl hne
  | cons t ts ih =>
    have ht := h t (by simp)
    cases ts with
    | nil => exact pieces_of_notMem ht
    | cons u us =>
      rw [joined, List.append_assoc, List.singleton_append, pieces_append_sep ht,
        ih (by simp) (fun x hx => h x (List.mem_cons_of_mem t hx))]
      simp

theorem joined_concat (sep : Text) {ts : List Text} (hne : ts ≠ []) (t : Text) :
    joined sep (ts ++ [t]) = joined sep ts ++ sep ++ t := by
  induction ts with
  | nil => exact absurd rfl hne
  | cons u us ih =>
    cases us with
    | nil => simp [joined]
    | cons x xs => simpa [joined] using ih (by simp)

theorem mem_joined {sep : Text} {ts : List Text} {c : Char} (h : c ∈ joined sep ts) :
    c ∈ sep ∨ ∃ t ∈ ts, c ∈ t := by
  fun_induction joined sep ts with
  | case1 => cases h
  | case2 t => exact .inr ⟨t, List.mem_singleton_self t, h⟩
  | case3 t ts _ ih =>
    simp only [List.mem_append] at h
    rcases h with (ht | hsep) | hrest
    · exact .inr ⟨t, List.mem_cons_self, ht⟩
    · exact .inl hsep
    · refine (ih hrest).imp_right ?_
      rintro ⟨u, hu, hc⟩
      exact ⟨u, List.mem_cons_of_mem t hu, hc⟩

theorem mem_joined_of_mem (sep : Text) {ts : List Text} {t : Text} (ht : t ∈ ts) {c : Char}
    (hc : c ∈ t) : c ∈ joined sep ts := by
  fun_induction joined sep ts with
  | case1 => cases ht
  | case2 u => exact List.mem_singleton.1 ht ▸ hc
  | case3 u us _ ih =>
    rcases List.mem_cons.1 ht with rfl | ht
    · exact List.mem_append_left _ (List.mem_append_left _ hc)
    · exact List.mem_append_right _ (ih ht)

/-- Cutting a text adds no characters. -/
theorem mem_of_mem_pieces {sep : Char} {t p : Text} (hp : p ∈ pieces sep t) {c : Char}
    (hc : c ∈ p) : c ∈ t := by
  rw [← joined_pieces sep t]
  exact mem_joined_of_mem [sep] hp hc

end Text

end StatementShell
