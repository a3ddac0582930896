import Carpinchos.Library.Queues
import Carpinchos.Memoria.TlbInvariante
import Carpinchos.Memoria.SwampFiel

/-!
# A translation repairs the TLB

The TLB may hold entries of a page that name frames of other pages, and more than one
entry for the page. A translation empties such an entry and starts again, so it makes at
most as many attempts as the page has entries, and whichever entry it finds first it ends
with the frame that holds the page.
-/

namespace Carpinchos.Memoria

open Outcome Estado

variable {E : Entorno} {s s' s'' : Estado} {p : ℕ} {f : ℤ}

section Definiciones

/-- The page belongs to a carpincho, and the frame `f` alone holds it. -/
structure EnUnMarco (p : ℕ) (f : ℤ) (s : Estado) : Prop where
  pid : 0 < (s.descriptor p).carpinchoPid
  pagina : 1 ≤ (s.descriptor p).pagina
  carpincho : (getCarpincho (s.descriptor p).carpinchoPid s).isSome
  numerados : ∀ m ∈ s.marcosList, 0 ≤ m.marco
  unico : ∃ m, s.marcosList.filter (esMarcoDe p s) = [m] ∧ m.marco = f

/-- A TLB with any entries for the page: all that is asked of the others is that they name
frames that exist, and that only entries of the page name `f`. -/
structure TlbDudosa (p : ℕ) (f : ℤ) (s : Estado) : Prop where
  entradas : (s.tlbList.map Tlb.entrada).Nodup
  fifo : s.tlbFifoPointer < s.tlbList.length
  marco : ∀ t ∈ s.tlbList, t.pid ≠ 0 → ∃ m ∈ s.marcosList, m.marco = t.marco
  propia : ∀ t ∈ s.tlbList, t.marco = f → esEntradaDe p s t

/-- The page is translated to `f` by one of the entries of the TLB. -/
def EntradaJusta (p : ℕ) (f : ℤ) (s : Estado) : Prop :=
  ∃ t ∈ s.tlbList, esEntradaDe p s t ∧ t.marco = f

/-- What every part of a translation leaves alone. -/
structure MismosMarcos (s s' : Estado) : Prop where
  marcosList : s'.marcosList = s.marcosList
  descriptor : s'.descriptor = s.descriptor
  carpinchos : s'.carpinchosList.map Carpincho.sinConteos =
    s.carpinchosList.map Carpincho.sinConteos

end Definiciones

section MismosMarcos

theorem MismosMarcos.refl (s : Estado) : MismosMarcos s s := ⟨rfl, rfl, rfl⟩

theorem MismosMarcos.trans (h : MismosMarcos s s') (h' : MismosMarcos s' s'') :
    MismosMarcos s s'' :=
  ⟨h'.marcosList.trans h.marcosList, h'.descriptor.trans h.descriptor,
    h'.carpinchos.trans h.carpinchos⟩

theorem SoloTlb.mismosMarcos (h : SoloTlb s s') : MismosMarcos s s' :=
  ⟨h.marcosList, h.descriptor, h.carpinchos⟩

theorem MismosMarcos.esMarcoDe (h : MismosMarcos s s') : esMarcoDe p s' = esMarcoDe p s := by
  funext m
  simp [Memoria.esMarcoDe, h.descriptor]

theorem getCarpincho_isSome_iff {pid : ℤ} :
    (getCarpincho pid s).isSome ↔ pid ∈ (s.carpinchosList.map Carpincho.sinConteos).map
      Carpincho.pid := by
  simp [getCarpincho, Carpincho.sinConteos]

theorem EnUnMarco.of_mismos (h : EnUnMarco p f s) (hm : MismosMarcos s s') :
    EnUnMarco p f s' := by
  refine ⟨?_, ?_, ?_, ?_, ?_⟩
  · rw [hm.descriptor]
    exact h.pid
  · rw [hm.descriptor]
    exact h.pagina
  · rw [getCarpincho_isSome_iff, hm.carpinchos, hm.descriptor, ← getCarpincho_isSome_iff]
    exact h.carpincho
  · rw [hm.marcosList]
    exact h.numerados
  · rw [hm.marcosList, hm.esMarcoDe]
    exact h.unico

theorem TlbDudosa.of_conteos (h : TlbDudosa p f s) (hc : SoloConteos s s') :
    TlbDudosa p f s' := by
  refine ⟨?_, ?_, ?_, ?_⟩
  · rw [hc.tlbList]
    exact h.entradas
  · rw [hc.tlbList, hc.fifo]
    exact h.fifo
  · rw [hc.tlbList, hc.solo.marcosList]
    exact h.marco
  · rw [hc.tlbList, esEntradaDe_congr hc.solo.descriptor]
    exact h.propia

end MismosMarcos

section Marco

theorem EnUnMarco.eq_of_esMarcoDe (h : EnUnMarco p f s) {m : Marco} (hm : m ∈ s.marcosList)
    (hde : esMarcoDe p s m) : m.marco = f := by
  obtain ⟨u, hu, hf⟩ := h.unico
  have hmem : m ∈ s.marcosList.filter (esMarcoDe p s) := List.mem_filter.2 ⟨hm, hde⟩
  rw [hu, List.mem_singleton] at hmem
  rw [hmem]
  exact hf

theorem EnUnMarco.exists_marco (h : EnUnMarco p f s) :
    ∃ m ∈ s.marcosList, esMarcoDe p s m ∧ m.marco = f := by
  obtain ⟨m, hm, hf⟩ := h.unico
  have hmem : m ∈ s.marcosList.filter (esMarcoDe p s) := by rw [hm]; exact List.mem_singleton.2 rfl
  obtain ⟨hmem, hde⟩ := List.mem_filter.1 hmem
  exact ⟨m, hmem, hde, hf⟩

theorem EnUnMarco.ne_neg_one (h : EnUnMarco p f s) : f ≠ -1 := by
  obtain ⟨m, hm, -, hf⟩ := h.exists_marco
  have := h.numerados m hm
  omega

theorem EnUnMarco.paginaIsInCache (h : EnUnMarco p f s) : paginaIsInCache p s = true := by
  obtain ⟨m, hm, hde, -⟩ := h.exists_marco
  exact List.any_eq_true.2 ⟨m, hm, hde⟩

theorem EnUnMarco.obtenerMarcoDeCache (h : EnUnMarco p f s) : obtenerMarcoDeCache p s = f := by
  unfold Memoria.obtenerMarcoDeCache
  cases hfind : s.marcosList.find? (esMarcoDe p s) with
  | none =>
    obtain ⟨m, hm, hde, -⟩ := h.exists_marco
    exact absurd hde (List.find?_eq_none.1 hfind m hm)
  | some m => exact h.eq_of_esMarcoDe (List.mem_of_find?_eq_some hfind) (List.find?_some hfind)

theorem getMarcoByMarcoNumber_of_mem {numero : ℤ} (h : ∃ m ∈ s.marcosList, m.marco = numero) :
    ∃ m ∈ s.marcosList, getMarcoByMarcoNumber numero s = some m ∧ m.marco = numero := by
  obtain ⟨m, hm, heq⟩ := h
  cases hfind : getMarcoByMarcoNumber numero s with
  | none => simpa [heq] using List.find?_eq_none.1 hfind m hm
  | some u =>
    exact ⟨u, List.mem_of_find?_eq_some hfind, rfl, by simpa using List.find?_some hfind⟩

end Marco

section Tabla

theorem TlbDudosa.vaciar (h : TlbDudosa p f s) (hf : f ≠ -1) (entrada : ℕ) :
    TlbDudosa p f (vaciarPaginaTlb entrada s) := by
  have hmem : ∀ t ∈ (vaciarPaginaTlb entrada s).tlbList,
      t ∈ s.tlbList ∨ (t.pid = 0 ∧ t.marco = -1) := by
    intro t ht
    obtain ⟨u, hu, rfl⟩ := List.mem_map.1 ht
    split
    · exact Or.inr ⟨rfl, rfl⟩
    · exact Or.inl hu
  refine ⟨?_, ?_, ?_, ?_⟩
  · rw [vaciarPaginaTlb, setTlb_tlbList, entradas_map (f := Tlb.vacia) fun _ => rfl]
    exact h.entradas
  · simpa [vaciarPaginaTlb, setTlb] using h.fifo
  · intro t ht h0
    rcases hmem t ht with ht | ⟨hvacia, -⟩
    · exact h.marco t ht h0
    · exact absurd hvacia h0
  · intro t ht heq
    rcases hmem t ht with ht | ⟨-, hmarco⟩
    · exact h.propia t ht heq
    · exact absurd (heq.symm.trans hmarco) hf

theorem countP_vaciar_lt (hpid : 0 < (s.descriptor p).carpinchoPid) {t : Tlb}
    (ht : t ∈ s.tlbList) (hde : esEntradaDe p s t) :
    (vaciarPaginaTlb t.entrada s).tlbList.countP (esEntradaDe p s) <
      s.tlbList.countP (esEntradaDe p s) := by
  have hvacia : ∀ u : Tlb, esEntradaDe p s u.vacia = false := by
    intro u
    apply decide_eq_false
    intro h
    exact absurd h.1 hpid.ne
  rw [vaciarPaginaTlb, setTlb_tlbList, List.countP_map]
  apply Queues.countP_lt_countP _ ht hde
  · simp [hvacia]
  · intro u _ hu
    simp only [Function.comp_apply] at hu
    split at hu
    · rw [hvacia] at hu
      cases hu
    · exact hu

end Tabla

section Pasos

theorem refrescarTlb_traducida (h : EntradaJusta p f s) :
    Spec (refrescarTlb E p s) (fun s' => MismosMarcos s s' ∧ EntradaJusta p f s')
      (· = .desbordamiento) := by
  obtain ⟨u, hu, hde, hf⟩ := h
  unfold refrescarTlb
  split
  · exact ⟨.refl s, u, hu, hde, hf⟩
  · have hin : paginaIsInTlb p s = true := List.any_eq_true.2 ⟨u, hu, hde⟩
    obtain ⟨t, ht, -⟩ := getTlbItem_some hin
    rw [ht]
    apply (obtenerTimeStamp_spec s).bind
    rintro ⟨ts, s₁⟩ ⟨rfl, rfl⟩
    refine ⟨⟨rfl, rfl, rfl⟩, _, List.mem_map_of_mem hu, ?_⟩
    dsimp only
    split
    · exact ⟨hde, hf⟩
    · exact ⟨hde, hf⟩

theorem cargarPaginaPaginaTlb_traducida (h : anyTlbItemIsFree s = true) :
    Spec (cargarPaginaPaginaTlb p f s) (fun s' => MismosMarcos s s' ∧ EntradaJusta p f s')
      (· = .desbordamiento) := by
  obtain ⟨e, he, hmem, -⟩ := anyTlbItemIsFree_some h
  unfold cargarPaginaPaginaTlb
  rw [he]
  apply (obtenerTimeStampTLB_spec s).bind
  intro r hr
  obtain ⟨hsolo, hlist, -⟩ := hr
  refine ⟨(hsolo.trans (soloTlb_setTlb r.2 e.entrada _)).mismosMarcos,
    { e with pid := (s.descriptor p).carpinchoPid, pagina := (s.descriptor p).pagina,
             marco := f, timestamp := r.1 }, ?_, ?_, rfl⟩
  · rw [setTlb_tlbList, hlist]
    exact List.mem_map.2 ⟨e, hmem, if_pos rfl⟩
  · simp [esEntradaDe, hsolo.descriptor, setTlb]

theorem actualizarTlb_traducida (h : TlbDudosa p f s) (hf : f ≠ -1)
    (hlibre : isMarcoInTlb f s = false) :
    Spec (actualizarTlb E p f s) (fun s' => MismosMarcos s s' ∧ EntradaJusta p f s')
      (· = .desbordamiento) := by
  obtain ⟨t, s₁, heq, hsacada, -⟩ := proximaPaginaASacarTlb_sacada (E := E) h.fifo
  unfold actualizarTlb
  rw [if_neg hf, hlibre, heq]
  simp only [ok_bind, Bool.false_eq_true, if_false]
  have hsolo := hsacada.solo.trans (soloTlb_setTlb s₁ t.entrada Tlb.vacia)
  have hvacia : anyTlbItemIsFree (vaciarPaginaTlb t.entrada s₁) = true :=
    List.any_eq_true.2
      ⟨t.vacia, List.mem_map.2 ⟨t, hsacada.mem, if_pos rfl⟩, by simp [Tlb.vacia]⟩
  apply (cargarPaginaPaginaTlb_traducida hvacia).mono
  · intro s' hs'
    exact ⟨hsolo.mismosMarcos.trans hs'.1, hs'.2⟩
  · intro e he
    exact he

theorem sinTlb_traducida (h : EnUnMarco p f s) (ht : TlbDudosa p f s)
    (hno : paginaIsInTlb p s = false) :
    Spec (obtenerMarcoSinTlb E p s >>= fun r => do
        let s ← actualizarTlb E p r.1 r.2
        .ok (r.1, s))
      (fun r => r.1 = f ∧ MismosMarcos s r.2 ∧ EntradaJusta p f r.2) (· = .desbordamiento) := by
  unfold obtenerMarcoSinTlb
  rw [if_pos h.paginaIsInCache]
  have hmiss : Spec (tlbMiss p s >>= fun s => (.ok (obtenerMarcoDeCache p s, s) :
      Except Falla (ℤ × Estado))) (fun r => r.1 = f ∧ SoloConteos s r.2)
      (· = .desbordamiento) := by
    apply (tlbMiss_spec h.carpincho).bind
    intro s₁ hs₁
    exact ⟨(h.of_mismos hs₁.solo.mismosMarcos).obtenerMarcoDeCache, hs₁⟩
  apply hmiss.bind
  rintro ⟨marco, s₁⟩ ⟨rfl, hs₁⟩
  have hlibre : isMarcoInTlb marco s₁ = false := by
    rw [isMarcoInTlb, hs₁.tlbList, List.any_eq_false]
    intro t htmem heq
    have hde := ht.propia t htmem (of_decide_eq_true heq)
    rw [paginaIsInTlb, List.any_eq_false] at hno
    exact hno t htmem hde
  apply (actualizarTlb_traducida (ht.of_conteos hs₁) h.ne_neg_one hlibre).bind
  intro s₂ hs₂
  exact ⟨rfl, hs₁.solo.mismosMarcos.trans hs₂.1, hs₂.2⟩

/-- The way of a page that an entry maps: the entry is right, or it is emptied and the
translation starts again. -/
theorem getMarcoDeTlb_traducida {obtenerMarco : ℕ → Estado → Except Falla (ℤ × Estado)}
    (h : EnUnMarco p f s) (ht : TlbDudosa p f s) (hin : paginaIsInTlb p s = true)
    (hotra : ∀ s', MismosMarcos s s' → TlbDudosa p f s' →
      s'.tlbList.countP (esEntradaDe p s') < s.tlbList.countP (esEntradaDe p s) →
        Spec (obtenerMarco p s')
          (fun r => r.1 = f ∧ MismosMarcos s' r.2 ∧ EntradaJusta p f r.2) (· = .desbordamiento)) :
    Spec (getMarcoDeTlb obtenerMarco p s)
      (fun r => r.1 = f ∧ MismosMarcos s r.2 ∧ EntradaJusta p f r.2) (· = .desbordamiento) := by
  obtain ⟨t, htlb, hmem, hpid, hpagina⟩ := getTlbItem_some hin
  have hde : esEntradaDe p s t = true := decide_eq_true ⟨hpid, hpagina⟩
  have h0 : t.pid ≠ 0 := by
    rw [hpid]
    exact h.pid.ne'
  obtain ⟨m, hm, hmarco, heq⟩ := getMarcoByMarcoNumber_of_mem (ht.marco t hmem h0)
  unfold getMarcoDeTlb
  rw [if_pos hin, htlb]
  simp only [hmarco]
  split
  · next hm' =>
    have hf : t.marco = f := heq.symm.trans (h.eq_of_esMarcoDe hm hm')
    exact ⟨hf, .refl s, t, hmem, hde, hf⟩
  · let s₁ : Estado := { s with ramas := s.ramas ++ [.reparacionTlb] }
    have ht₁ : TlbDudosa p f s₁ := ⟨ht.entradas, ht.fifo, ht.marco, ht.propia⟩
    have hmismos : MismosMarcos s (vaciarPaginaTlb t.entrada s₁) := ⟨rfl, rfl, rfl⟩
    have hmenos : (vaciarPaginaTlb t.entrada s₁).tlbList.countP (esEntradaDe p s₁) <
        s₁.tlbList.countP (esEntradaDe p s₁) := countP_vaciar_lt h.pid hmem hde
    apply (hotra _ hmismos (ht₁.vaciar h.ne_neg_one t.entrada) hmenos).mono
    · intro r hr
      exact ⟨hr.1, hmismos.trans hr.2.1, hr.2.2⟩
    · intro e he
      exact he

end Pasos

section Traduccion

/-- As many attempts as the page has entries, and one more, are enough. -/
theorem obtenerMarcoParaPagina_traducida (fuel : ℕ) (h : EnUnMarco p f s)
    (ht : TlbDudosa p f s) (hfuel : s.tlbList.countP (esEntradaDe p s) < fuel) :
    Spec (obtenerMarcoParaPagina E fuel p s)
      (fun r => r.1 = f ∧ MismosMarcos s r.2 ∧ EntradaJusta p f r.2) (· = .desbordamiento) := by
  induction fuel generalizing s with
  | zero => exact absurd hfuel (Nat.not_lt_zero _)
  | succ fuel ih =>
    unfold obtenerMarcoParaPagina
    split
    · next hin =>
      apply (tlbHit_spec h.carpincho).bind
      intro s₁ hs₁
      have hmismos := hs₁.solo.mismosMarcos
      have hde : esEntradaDe p s₁ = esEntradaDe p s := esEntradaDe_congr hs₁.solo.descriptor
      have hin₁ : paginaIsInTlb p s₁ = true := by
        rw [paginaIsInTlb, hde, hs₁.tlbList]
        exact hin
      have hmarco : Spec (getMarcoDeTlb (obtenerMarcoParaPagina E fuel) p s₁)
          (fun r => r.1 = f ∧ MismosMarcos s₁ r.2 ∧ EntradaJusta p f r.2)
          (· = .desbordamiento) := by
        apply getMarcoDeTlb_traducida (h.of_mismos hmismos) (ht.of_conteos hs₁) hin₁
        intro s' hs' ht' hmenos
        rw [hs₁.tlbList, hde] at hmenos
        exact ih (h.of_mismos (hmismos.trans hs')) ht' (by omega)
      apply hmarco.bind
      rintro ⟨marco, s₂⟩ ⟨rfl, hs₂, htrad⟩
      apply (refrescarTlb_traducida htrad).bind
      intro s₃ hs₃
      exact ⟨rfl, (hmismos.trans hs₂).trans hs₃.1, hs₃.2⟩
    · next hno => exact sinTlb_traducida h ht (Bool.eq_false_iff.2 hno)

/-- A page that one frame alone holds is translated to that frame whatever entries the TLB
has for it, unless one of the counters passes `INT_MAX` on the way. -/
theorem traduccion_repara_tlb (E : Entorno) (s : Estado) (p : ℕ) (f : ℤ) (h : EnUnMarco p f s)
    (ht : TlbDudosa p f s) (fuel : ℕ) (hfuel : s.tlbList.countP (esEntradaDe p s) < fuel) :
    Spec (obtenerMarcoParaPagina E fuel p s)
      (fun r => r.1 = f ∧ r.2.marcosList = s.marcosList ∧
        ∃ t ∈ r.2.tlbList, t.pid = (s.descriptor p).carpinchoPid ∧
          t.pagina = (s.descriptor p).pagina ∧ t.marco = f)
      (· = .desbordamiento) := by
  apply (obtenerMarcoParaPagina_traducida fuel h ht hfuel).mono
  · rintro r ⟨hf, hmismos, t, hmem, hde, hmarco⟩
    rw [esEntradaDe, hmismos.descriptor, decide_eq_true_iff] at hde
    exact ⟨hf, hmismos.marcosList, t, hmem, hde.1, hde.2, hmarco⟩
  · intro e he
    exact he

/-- Page 1 of carpincho 7 is in frame 0; two entries say that it is in frame 1, where
page 1 of carpincho 8 is, and one says frame 0. -/
def tresEntradas (hits : ℕ) : Estado :=
  { estadoHeap with
    marcosList := [{ marco := 0, isFree := false, pagina := 1, pid := 7 },
      { marco := 1, isFree := false, pagina := 1, pid := 8 }]
    carpinchosList := [{ pid := 7, tlbHits := 0, tlbMiss := 0, algoritmStackPointer := 0,
                         paginas := [0], allocs := [] }]
    descriptor := fun _ =>
      { marco := 0, carpinchoPid := 7, pagina := 1, bitPresencia := true, bitDeUso := false,
        bitDeModificacion := false, timestamp := 0, liberada := false }
    tlbList := [{ entrada := 0, pid := 7, pagina := 1, marco := 1, timestamp := 0 },
      { entrada := 1, pid := 0, pagina := 0, marco := -1, timestamp := 0 },
      { entrada := 2, pid := 7, pagina := 1, marco := 1, timestamp := 0 },
      { entrada := 3, pid := 7, pagina := 1, marco := 0, timestamp := 0 }]
    tlbHitsTotales := hits }

theorem tresEntradas_enUnMarco (hits : ℕ) : EnUnMarco 0 0 (tresEntradas hits) := by
  have h : EnUnMarco 0 0 (tresEntradas 0) := ⟨by decide, by decide, by decide, by decide,
    { marco := 0, isFree := false, pagina := 1, pid := 7 }, by decide, rfl⟩
  exact ⟨h.pid, h.pagina, h.carpincho, h.numerados, h.unico⟩

theorem tresEntradas_dudosa (hits : ℕ) : TlbDudosa 0 0 (tresEntradas hits) := by
  have h : TlbDudosa 0 0 (tresEntradas 0) := ⟨by decide, by decide, by decide, by decide⟩
  exact ⟨h.entradas, h.fifo, h.marco, h.propia⟩

theorem traduccion_repara_tlb_tresEntradas :
    ∃ r, obtenerMarcoParaPagina (entornoFiel configHeap) 5 0 (tresEntradas 0) = .ok r ∧
      r.1 = 0 ∧ r.2.marcosList = (tresEntradas 0).marcosList ∧
      ∃ t ∈ r.2.tlbList, t.pid = 7 ∧ t.pagina = 1 ∧ t.marco = 0 := by
  have h := traduccion_repara_tlb (entornoFiel configHeap) (tresEntradas 0) 0 0
    (tresEntradas_enUnMarco 0) (tresEntradas_dudosa 0) 5 (by decide)
  obtain ⟨r, hr⟩ := exists_of_isOk (x := obtenerMarcoParaPagina (entornoFiel configHeap) 5 0
    (tresEntradas 0)) (by decide +kernel)
  exact ⟨r, hr, h.post_of_eq hr⟩

/-- With the count of hits at `INT_MAX` no translation through the TLB is defined. -/
theorem traduccion_desborda :
    EnUnMarco 0 0 (tresEntradas (2 ^ 31 - 1)) ∧ TlbDudosa 0 0 (tresEntradas (2 ^ 31 - 1)) ∧
      ∀ fuel r, obtenerMarcoParaPagina (entornoFiel configHeap) fuel 0
        (tresEntradas (2 ^ 31 - 1)) ≠ .ok r := by
  refine ⟨tresEntradas_enUnMarco _, tresEntradas_dudosa _, fun fuel r hr => ?_⟩
  cases fuel with
  | zero => cases hr
  | succ fuel =>
    have hhit : tlbHit 0 (tresEntradas (2 ^ 31 - 1)) = .error .desbordamiento :=
      eq_of_faults (by decide +kernel)
    have hin : paginaIsInTlb 0 (tresEntradas (2 ^ 31 - 1)) = true := by decide
    rw [obtenerMarcoParaPagina, if_pos hin, hhit] at hr
    cases hr

end Traduccion

end Carpinchos.Memoria
