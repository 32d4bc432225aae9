import ServiceDiagram.Proofs.Text.Runs
import ServiceDiagram.Proofs.Url.Blanks

/-!
# Where an authority ends

The authority of an address, and so its host and its number, ends in front of the first slash, question
mark or number sign.  What stands behind does not matter to it (`checkAuthority_ended`); blanks at its
end do, they would be part of the host or of the number (`checkAuthority_blank`).

* `Within cs`   no authority ends in `cs`;
* `Ended cs`    none goes on in `cs`: it is empty, or starts where an authority ends.

Each reader is followed from the last one backwards: the number, the host in front of it, and who asks.
-/

namespace ServiceDiagram.Url

open Text

def Within (cs : List Char) : Prop := ∀ c ∈ cs, endsAuthority .hosted c = false

def Ended (cs : List Char) : Prop := ∀ c ∈ cs.head?, endsAuthority .hosted c = true

structure AreBlanks (cs : List Char) : Prop where
  ne_nil : cs ≠ []
  le : ∀ c ∈ cs, c.toNat ≤ 0x20

variable {c : Char} {a host number cs x q blanks : List Char} {inside named : Bool}

/-! ### characters -/

theorem endsAuthority_iff :
    endsAuthority .hosted c = true ↔ c = '/' ∨ c = '?' ∨ c = '#' ∨ c = '\\' := by
  simp only [endsAuthority, Bool.or_eq_true, Bool.and_eq_true, beq_iff_eq, bne_iff_ne, ne_eq,
    reduceCtorEq, not_false_eq_true, and_true, or_assoc]

theorem ended_nil : Ended [] := nofun

theorem Ended.ne_of_mem (h : Ended cs) {d : Char} (hd : endsAuthority .hosted d = false) :
    cs.head? ≠ some d := by
  intro he
  rw [h d he] at hd
  cases hd

theorem Within.append (ha : Within a) (hx : Within x) : Within (a ++ x) := by
  intro c hc
  rcases List.mem_append.mp hc with hc | hc
  · exact ha c hc
  · exact hx c hc

theorem AreBlanks.ne (h : AreBlanks blanks) {d : Char} (hd : 0x20 < d.toNat) : d ∉ blanks := by
  intro hmem
  have := h.le d hmem
  omega

theorem AreBlanks.within (h : AreBlanks blanks) : Within blanks := by
  intro c hc
  have hle := h.le c hc
  rw [Bool.eq_false_iff, ne_eq, endsAuthority_iff]
  rintro (rfl | rfl | rfl | rfl) <;> exact absurd hle (by decide)

/-! ### numbers -/

theorem checkNumber_eq (cs : List Char) :
    checkNumber cs =
      if 65535 < ofDigits 10 (cs.takeWhile Char.isDigit) then .error .number
      else if (cs.dropWhile Char.isDigit).head?.all fun c => isSlash c || c == '?' || c == '#' then
        .ok ()
      else .error .number := by
  have hdrop : cs.drop (cs.takeWhile Char.isDigit).length = cs.dropWhile Char.isDigit := by
    have hcut := congrArg (List.drop (cs.takeWhile Char.isDigit).length)
      (List.takeWhile_append_dropWhile (p := Char.isDigit) (l := cs))
    rw [List.drop_left] at hcut
    exact hcut.symm
  simp only [checkNumber, hdrop]

theorem not_isDigit_of_ends (h : endsAuthority .hosted c = true) : c.isDigit = false := by
  rcases endsAuthority_iff.mp h with rfl | rfl | rfl | rfl <;> decide

theorem checkNumber_ended (hq : Ended q) : checkNumber (number ++ q) = checkNumber number := by
  rw [checkNumber_eq, checkNumber_eq, List.takeWhile_append, List.dropWhile_append]
  by_cases hall : number.dropWhile Char.isDigit = []
  · have htake : number.takeWhile Char.isDigit = number := by
      have hcut := List.takeWhile_append_dropWhile (p := Char.isDigit) (l := number)
      rwa [hall, List.append_nil] at hcut
    have hend : (q.head?.all fun c => isSlash c || c == '?' || c == '#') = true := by
      cases hhead : q.head? with
      | none => rfl
      | some c =>
        rcases endsAuthority_iff.mp (hq c hhead) with rfl | rfl | rfl | rfl <;> decide
    have hnodigit : ∀ c ∈ q.head?, c.isDigit = false := fun c hc => not_isDigit_of_ends (hq c hc)
    rw [htake, if_pos rfl, takeWhile_none hnodigit, List.append_nil, hall, List.isEmpty_nil,
      if_pos rfl, dropWhile_none hnodigit, hend]
    rfl
  · have hshort : (number.takeWhile Char.isDigit).length ≠ number.length := by
      have hcut := congrArg List.length
        (List.takeWhile_append_dropWhile (p := Char.isDigit) (l := number))
      have hpos := List.length_pos_iff.mpr hall
      rw [List.length_append] at hcut
      omega
    have hhead : (number.dropWhile Char.isDigit ++ q).head? =
        (number.dropWhile Char.isDigit).head? := by
      rw [List.head?_append_of_ne_nil _ hall]
    have hempty : ¬ (number.dropWhile Char.isDigit).isEmpty = true :=
      fun h => hall (List.isEmpty_iff.mp h)
    rw [if_neg hshort, if_neg hempty, hhead]

/-- a number is digits to its end, so there can be no blanks -/
theorem checkNumber_blank (hn : Within number) (hok : checkNumber number = .ok ())
    (hblanks : AreBlanks blanks) : checkNumber (number ++ blanks) ≠ .ok () := by
  have hdigit : ∀ c ∈ blanks, c.isDigit = false := by
    intro c hc
    have hle := hblanks.le c hc
    rw [Bool.eq_false_iff]
    intro hd
    have hge : 48 ≤ c.toNat := (Char.isDigit_iff_toNat.mp hd).1
    omega
  have hall : number.dropWhile Char.isDigit = [] := by
    rw [checkNumber_eq] at hok
    split at hok
    · cases hok
    · split at hok
      · next hend =>
        cases hrest : number.dropWhile Char.isDigit with
        | nil => rfl
        | cons c rest =>
          rw [hrest] at hend
          have hmem : c ∈ number := by
            refine (List.dropWhile_suffix Char.isDigit).mem ?_
            rw [hrest]
            exact List.mem_cons_self
          have hends : endsAuthority .hosted c = true := by
            simpa [isSlash, endsAuthority, or_comm, or_left_comm, or_assoc] using hend
          rw [hn c hmem] at hends
          cases hends
      · cases hok
  rw [checkNumber_eq, List.dropWhile_append, hall, List.isEmpty_nil, if_pos rfl]
  split
  · exact nofun
  · cases hb : blanks with
    | nil => exact absurd hb hblanks.ne_nil
    | cons c rest =>
      have hmem : c ∈ blanks := by
        rw [hb]
        exact List.mem_cons_self
      have hends := hblanks.within c hmem
      have hstop : (isSlash c || c == '?' || c == '#') = false := by
        simpa [isSlash, endsAuthority, and_comm, and_left_comm, and_assoc] using hends
      rw [List.dropWhile_cons, hdigit c hmem]
      simp only [Bool.false_eq_true, if_false, List.head?_cons, Option.all_some, hstop]
      exact nofun

/-! ### hosts -/

theorem takeHost_part (h : takeHost .hosted inside cs ≠ cs) (x : List Char) :
    takeHost .hosted inside (cs ++ x) = takeHost .hosted inside cs := by
  induction cs generalizing inside with
  | nil => exact absurd rfl h
  | cons c cs ih =>
    rw [takeHost] at h
    rw [List.cons_append, takeHost, takeHost]
    split
    · rfl
    · next hgo =>
      rw [if_neg hgo] at h
      exact congrArg (c :: ·) (ih fun he => h (congrArg (c :: ·) he))

/-- behind a text that is all host the host goes on, inside brackets or not -/
theorem takeHost_whole (h : takeHost .hosted inside cs = cs) :
    ∃ inside', ∀ x, takeHost .hosted inside (cs ++ x) = cs ++ takeHost .hosted inside' x := by
  induction cs generalizing inside with
  | nil => exact ⟨inside, fun x => rfl⟩
  | cons c cs ih =>
    rw [takeHost] at h
    split at h
    · cases h
    · next hgo =>
      obtain ⟨inside', hinside⟩ := ih (List.cons.inj h).2
      refine ⟨inside', fun x => ?_⟩
      rw [List.cons_append, takeHost, if_neg hgo, hinside, List.cons_append]

theorem takeHost_ended (hq : Ended q) : takeHost .hosted inside q = [] := by
  cases q with
  | nil => rfl
  | cons c q => rw [takeHost, hq c rfl, Bool.true_or, if_pos rfl]

theorem takeHost_blanks (hblanks : Within blanks) (hcolon : ':' ∉ blanks) (hq : Ended q) :
    takeHost .hosted inside (blanks ++ q) = blanks := by
  induction blanks generalizing inside with
  | nil => exact takeHost_ended hq
  | cons c blanks ih =>
    rw [List.mem_cons, not_or] at hcolon
    have hc : (c == ':') = false := beq_false_of_ne (Ne.symm hcolon.1)
    have hgo := hblanks c List.mem_cons_self
    rw [List.cons_append, takeHost, hgo, hc, Bool.false_or, Bool.false_and,
      if_neg Bool.false_ne_true, ih (fun d hd => hblanks d (List.mem_cons_of_mem c hd)) hcolon.2]

/-- **A host goes to the end of an authority**, or to a colon. -/
theorem takeHost_cases (h : Within cs) (inside : Bool) :
    takeHost .hosted inside cs = cs ∨
      ∃ number, cs = takeHost .hosted inside cs ++ ':' :: number := by
  induction cs generalizing inside with
  | nil => exact Or.inl rfl
  | cons c cs ih =>
    rw [takeHost]
    split
    · next hstop =>
      rw [h c List.mem_cons_self, Bool.false_or, Bool.and_eq_true, beq_iff_eq] at hstop
      exact Or.inr ⟨cs, by rw [hstop.1]; rfl⟩
    · rcases ih (fun d hd => h d (List.mem_cons_of_mem c hd)) _ with hall | ⟨number, hnumber⟩
      · exact Or.inl (congrArg (c :: ·) hall)
      · exact Or.inr ⟨number, congrArg (c :: ·) hnumber⟩

/-! ### a host and its number -/

theorem bind_eq_ok_iff {ε : Type} {first : Except ε Unit} {rest : Unit → Except ε Unit} :
    (first >>= rest) = .ok () ↔ first = .ok () ∧ rest () = .ok () := by
  cases first with
  | error fault => exact ⟨nofun, fun h => nomatch h.1⟩
  | ok u => exact ⟨fun h => ⟨rfl, h⟩, fun h => h.2⟩

theorem checkHostNumber_eq_ok_iff :
    checkHostNumber .hosted named cs = .ok () ↔
      takeHost .hosted false cs ≠ [] ∧ checkHost (takeHost .hosted false cs) = .ok () ∧
        ∀ number, cs.drop (takeHost .hosted false cs).length = ':' :: number →
          checkNumber number = .ok () := by
  unfold checkHostNumber
  simp only [if_true]
  by_cases hne : takeHost .hosted false cs = []
  · rw [hne]
    exact ⟨nofun, fun h => absurd rfl h.1⟩
  · have hempty : (takeHost .hosted false cs).isEmpty = false := by
      rw [Bool.eq_false_iff, ne_eq, List.isEmpty_iff]
      exact hne
    rw [hempty, if_neg Bool.false_ne_true, bind_eq_ok_iff]
    refine ⟨fun ⟨hhost, hrest⟩ => ⟨hne, hhost, fun number hnumber => ?_⟩,
      fun ⟨_, hhost, hnumber⟩ => ⟨hhost, ?_⟩⟩
    · rw [hnumber] at hrest
      exact (bind_eq_ok_iff.mp hrest).1
    · split
      · next number hdrop => exact bind_eq_ok_iff.mpr ⟨hnumber number hdrop, rfl⟩
      · rfl

theorem checkHostNumber_whole (hx : takeHost .hosted false (cs ++ x) = cs) (hcolon : x.head? ≠ some ':') :
    checkHostNumber .hosted named (cs ++ x) = .ok () ↔ cs ≠ [] ∧ checkHost cs = .ok () := by
  rw [checkHostNumber_eq_ok_iff, hx, List.drop_left]
  refine and_congr_right fun _ => and_iff_left ?_
  rintro number rfl
  exact absurd rfl hcolon

theorem checkHostNumber_part (h : takeHost .hosted false cs = host)
    (hcs : cs = host ++ ':' :: number) (named : Bool) (x : List Char) :
    checkHostNumber .hosted named (cs ++ x) = .ok () ↔
      host ≠ [] ∧ checkHost host = .ok () ∧ checkNumber (number ++ x) = .ok () := by
  have hpart : takeHost .hosted false cs ≠ cs := by
    intro he
    have hlength := congrArg List.length (h.symm.trans he)
    rw [hcs, List.length_append, List.length_cons] at hlength
    omega
  rw [checkHostNumber_eq_ok_iff, takeHost_part hpart, h]
  have hdrop : (cs ++ x).drop host.length = ':' :: (number ++ x) := by
    rw [hcs, List.append_assoc, List.drop_left, List.cons_append]
  rw [hdrop]
  refine and_congr_right fun _ => and_congr_right fun _ => ⟨fun hn => hn _ rfl, fun hn m hm => ?_⟩
  obtain rfl := (List.cons.inj hm).2
  exact hn

theorem Ended.ne_colon (hq : Ended q) : q.head? ≠ some ':' := hq.ne_of_mem (by decide)

theorem checkHostNumber_ended (hcs : Within cs) (hq : Ended q) :
    checkHostNumber .hosted named (cs ++ q) = .ok () ↔ checkHostNumber .hosted named cs = .ok () := by
  rcases takeHost_cases hcs false with hall | ⟨number, hnumber⟩
  · obtain ⟨inside, hinside⟩ := takeHost_whole hall
    have hend : takeHost .hosted false (cs ++ q) = cs := by
      rw [hinside, takeHost_ended hq, List.append_nil]
    have hself : checkHostNumber .hosted named (cs ++ []) = .ok () ↔ cs ≠ [] ∧ checkHost cs = .ok () :=
      checkHostNumber_whole (by rw [List.append_nil]; exact hall) nofun
    rw [List.append_nil] at hself
    rw [checkHostNumber_whole hend hq.ne_colon, hself]
  · have hself := checkHostNumber_part rfl hnumber named []
    rw [List.append_nil, List.append_nil] at hself
    rw [checkHostNumber_part rfl hnumber, checkNumber_ended hq, hself]

theorem checkHostNumber_blank (hcs : Within cs) (hok : checkHostNumber .hosted named cs = .ok ())
    (hblanks : AreBlanks blanks) (hq : Ended q) :
    checkHostNumber .hosted named (cs ++ (blanks ++ q)) ≠ .ok () := by
  rcases takeHost_cases hcs false with hall | ⟨number, hnumber⟩
  · obtain ⟨inside, hinside⟩ := takeHost_whole hall
    have hhost : takeHost .hosted false (cs ++ (blanks ++ q)) = cs ++ blanks := by
      rw [hinside, takeHost_blanks hblanks.within (hblanks.ne (by decide)) hq]
    have hne := (checkHostNumber_eq_ok_iff.mp hok).1
    rw [hall] at hne
    intro h
    have hchecked := (checkHostNumber_eq_ok_iff.mp h).2.1
    rw [hhost] at hchecked
    exact checkHost_blank hne hblanks.ne_nil hblanks.le hchecked
  · have hself := checkHostNumber_part rfl hnumber named []
    rw [List.append_nil, List.append_nil] at hself
    have hdigits := (hself.mp hok).2.2
    have hwithin : Within number := by
      intro c hc
      refine hcs c ?_
      rw [hnumber]
      exact List.mem_append_right _ (List.mem_cons_of_mem _ hc)
    intro h
    have hchecked := ((checkHostNumber_part rfl hnumber named _).mp h).2.2
    rw [← List.append_assoc, checkNumber_ended hq] at hchecked
    exact checkNumber_blank hwithin hdigits hblanks hchecked

/-! ### who asks -/

theorem takeWhile_within (ha : Within a) (hq : Ended q) :
    (a ++ q).takeWhile (fun c => !endsAuthority .hosted c) = a :=
  takeWhile_run (fun c hc => by rw [ha c hc]; rfl) fun c hc => by rw [hq c hc]; rfl

theorem dropWhile_within (ha : Within a) (hq : Ended q) :
    (a ++ q).dropWhile (fun c => !endsAuthority .hosted c) = q :=
  dropWhile_run (fun c hc => by rw [ha c hc]; rfl) fun c hc => by rw [hq c hc]; rfl

theorem splitUser_none (ha : Within a) (hat : '@' ∉ a) (hq : Ended q) :
    splitUser .hosted (a ++ q) = (none, a ++ q) := by
  have hall : a.reverse.takeWhile (· != '@') = a.reverse := by
    refine List.takeWhile_eq_self_iff.mpr fun c hc => bne_iff_ne.mpr ?_
    rintro rfl
    exact hat (List.mem_reverse.mp hc)
  simp only [splitUser, takeWhile_within ha hq, hall, List.reverse_reverse, if_true]

theorem splitUser_some {user : List Char} (ha : Within (user ++ '@' :: host)) (hat : '@' ∉ host)
    (hq : Ended q) :
    splitUser .hosted (user ++ '@' :: host ++ q) = (some user, host ++ q) := by
  have hpass : ∀ c ∈ host.reverse, (c != '@') = true := by
    intro c hc
    rw [bne_iff_ne]
    rintro rfl
    exact hat (List.mem_reverse.mp hc)
  have hbehind : (user ++ '@' :: host).reverse.takeWhile (· != '@') = host.reverse := by
    rw [List.reverse_append, List.reverse_cons, List.append_assoc, List.singleton_append]
    exact takeWhile_run hpass (forall_head_cons (by decide))
  have hlength : (user ++ '@' :: host).length = user.length + 1 + host.length := by
    rw [List.length_append, List.length_cons]
    omega
  have hne : ¬ host.length = user.length + 1 + host.length := by omega
  have hsize : user.length + 1 + host.length - host.length - 1 = user.length := by omega
  have hdrop : (user ++ '@' :: host ++ q).drop (user.length + 1) = host ++ q := by
    rw [List.append_assoc, List.drop_append, List.drop_of_length_le (Nat.le_succ _),
      Nat.add_sub_cancel_left]
    rfl
  simp only [splitUser, takeWhile_within ha hq, hbehind, List.reverse_reverse, hlength, if_neg hne,
    hsize, List.take_left, hdrop]

/-! ### an authority -/

theorem exists_last {c : Char} (h : c ∈ a) : ∃ front back, a = front ++ c :: back ∧ c ∉ back := by
  obtain ⟨back, front, hreverse, hnone⟩ := List.eq_append_cons_of_mem (List.mem_reverse.mpr h)
  refine ⟨front.reverse, back.reverse, ?_, fun hm => hnone (List.mem_reverse.mp hm)⟩
  rw [← List.reverse_reverse a, hreverse, List.reverse_append, List.reverse_cons, List.append_assoc,
    List.singleton_append]

/-- a host with its number comes last, and the rest of an authority does not depend on it -/
theorem exists_checkHostNumber (ha : Within a) :
    ∃ cs named, Within cs ∧ ∀ x q, Within x → '@' ∉ x → Ended q →
      (checkAuthority .hosted (a ++ (x ++ q)) = .ok () ↔
        checkHostNumber .hosted named (cs ++ (x ++ q)) = .ok ()) := by
  by_cases hat : '@' ∈ a
  · obtain ⟨user, host, rfl, hhost⟩ := exists_last hat
    have hwithin : Within host := fun c hc =>
      ha c (List.mem_append_right _ (List.mem_cons_of_mem _ hc))
    have hsplit : ∀ x q, Within x → '@' ∉ x → Ended q →
        splitUser .hosted (user ++ '@' :: host ++ (x ++ q)) = (some user, host ++ (x ++ q)) := by
      intro x q hx hatx hq
      have hlonger : Within (user ++ '@' :: (host ++ x)) := by
        rw [← List.cons_append, ← List.append_assoc]
        exact ha.append hx
      have hnone : '@' ∉ host ++ x := fun hm => (List.mem_append.mp hm).elim hhost hatx
      have hread := splitUser_some hlonger hnone hq
      simpa only [List.append_assoc, List.cons_append] using hread
    cases user with
    | nil =>
      refine ⟨host, false, hwithin, fun x q hx hatx hq => ?_⟩
      unfold checkAuthority
      rw [hsplit x q hx hatx hq]
      show (if (host ++ (x ++ q)).head?.any (endsAuthority .hosted) then _ else _) = _ ↔ _
      split
      · next hany =>
        -- then there is nothing between the sign and the end of the authority
        have hempty : host ++ x = [] := by
          cases hall : host ++ x with
          | nil => rfl
          | cons c cs =>
            rw [← List.append_assoc, hall] at hany
            have hc : c ∈ host ++ x := by
              rw [hall]
              exact List.mem_cons_self
            cases ((hwithin.append hx) c hc).symm.trans hany
        refine iff_of_false nofun fun h => ?_
        rw [← List.append_assoc, hempty, List.nil_append] at h
        exact (checkHostNumber_eq_ok_iff.mp h).1 (takeHost_ended hq)
      · rfl
    | cons u us =>
      refine ⟨host, u :: us != [':'], hwithin, fun x q hx hatx hq => ?_⟩
      unfold checkAuthority
      rw [hsplit x q hx hatx hq]
  · refine ⟨a, false, ha, fun x q hx hatx hq => ?_⟩
    have hnone : '@' ∉ a ++ x := fun hm => (List.mem_append.mp hm).elim hat hatx
    unfold checkAuthority
    rw [← List.append_assoc, splitUser_none (ha.append hx) hnone hq]

/-- **What stands behind an authority does not matter to it.** -/
theorem checkAuthority_ended (ha : Within a) (hq : Ended q) :
    checkAuthority .hosted (a ++ q) = .ok () ↔ checkAuthority .hosted a = .ok () := by
  obtain ⟨cs, named, hcs, hsame⟩ := exists_checkHostNumber ha
  have hbehind := hsame [] q nofun List.not_mem_nil hq
  have hself := hsame [] [] nofun List.not_mem_nil ended_nil
  rw [List.nil_append] at hbehind hself
  rw [List.append_nil, List.append_nil] at hself
  rw [hbehind, hself, checkHostNumber_ended hcs hq]

/-- **An authority does not end with blanks.** -/
theorem checkAuthority_blank (ha : Within a) (hok : checkAuthority .hosted a = .ok ())
    (hblanks : AreBlanks blanks) (hq : Ended q) :
    checkAuthority .hosted (a ++ (blanks ++ q)) ≠ .ok () := by
  obtain ⟨cs, named, hcs, hsame⟩ := exists_checkHostNumber ha
  have hself := hsame [] [] nofun List.not_mem_nil ended_nil
  rw [List.append_nil, List.append_nil, List.append_nil] at hself
  rw [ne_eq, hsame blanks q hblanks.within (hblanks.ne (by decide)) hq]
  exact checkHostNumber_blank hcs (hself.mp hok) hblanks hq

end ServiceDiagram.Url
