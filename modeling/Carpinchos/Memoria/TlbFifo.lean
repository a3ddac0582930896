import Carpinchos.Library.Replacement
import Carpinchos.Memoria.PasoTlb
import Carpinchos.Memoria.SwampFiel

/-!
# Replacement of TLB entries by order of load

The pointer of the FIFO policy moves only when an entry is replaced, and an entry that an
eviction has emptied is filled again where it is. As long as the entry that is filled comes
after all entries in use, from the pointer on, the pointer stands before the entry that was
loaded first. An entry that is filled before others lets the two orders drift apart.
-/

namespace Carpinchos.Memoria

open Outcome Runs Replacement

variable {E : Entorno} {s s' : Estado} {op : Operacion} {o : Resultado}

def giro (E : Entorno) (s : Estado) (t : Tlb) : ℕ :=
  turn E.config.cantidaEntradasTlb s.tlbFifoPointer t.entrada

/-- If the call fills an empty entry, the entry comes after those in use. -/
def huecoAlFinal (E : Entorno) (s : Estado) (op : Operacion) : Bool :=
  match antesDeCargar E s op with
  | none => true
  | some s =>
    match getNextFreeTlbItem s with
    | none => true
    | some e => (ocupadas s).all fun t => giro E s t < giro E s e

def cargada (s : Estado) (op : Operacion) (s' : Estado) : List (ℤ × ℤ) :=
  match usoEn s op with
  | none => []
  | some u => if enTlb u s = false ∧ enTlb u s' = true then [u] else []

/-- The pages that are loaded into the TLB in a run, in order. -/
def cargadas (E : Entorno) : List Operacion → Estado → List (ℤ × ℤ) :=
  history (paso E) cargada

/-- From the pointer on, the entries in use are in the order of their loads. -/
structure EnGiro (E : Entorno) (hs : List (ℤ × ℤ)) (s : Estado) : Prop where
  puntero : s.tlbFifoPointer < E.config.cantidaEntradasTlb
  orden : RankedByUse Tlb.nombre (giro E s) (ocupadas s) hs

theorem giro_congr (h : s'.tlbFifoPointer = s.tlbFifoPointer) : giro E s' = giro E s := by
  funext t
  rw [giro, giro, h]

theorem EnGiro.menos {hs : List (ℤ × ℤ)} (h : EnGiro E hs s)
    (hfifo : s'.tlbFifoPointer = s.tlbFifoPointer) (hsub : ∀ t ∈ ocupadas s', t ∈ ocupadas s) :
    EnGiro E hs s' := by
  refine ⟨hfifo ▸ h.puntero, ?_⟩
  rw [giro_congr hfifo]
  exact h.orden.subset hsub

theorem giro_lt_hueco {s₁ : Estado} {e t : Tlb} (hg : huecoAlFinal E s op = true)
    (hantes : antesDeCargar E s op = some s₁)
    (hlibre : s₁.tlbList.find? (fun t => t.pid = 0) = some e) (ht : t ∈ ocupadas s₁) :
    giro E s₁ t < giro E s₁ e := by
  unfold huecoAlFinal at hg
  simp only [hantes, show getNextFreeTlbItem s₁ = some e from hlibre, List.all_eq_true] at hg
  exact of_decide_eq_true (hg t ht)

theorem entrada_de_puntero {tlb : List Tlb} {puntero n : ℕ} {e : Tlb}
    (hentradas : (tlb.map Tlb.entrada).Perm (List.range n))
    (hget : listGet (ordenarPor E (fun t : Tlb => (t.entrada : ℤ)) tlb) puntero = some e) :
    e.entrada = puntero := by
  have hsorted := E.listSort_sorted (fun t : Tlb => (t.entrada : ℤ)) tlb
  have heq : (ordenarPor E (fun t : Tlb => (t.entrada : ℤ)) tlb).map Tlb.entrada =
      List.range n := by
    have hsorted' : ((ordenarPor E (fun t : Tlb => (t.entrada : ℤ)) tlb).map Tlb.entrada).Pairwise
        fun i j : ℕ => (i : ℤ) ≤ j := by
      rw [List.pairwise_map]
      exact hsorted
    apply eq_of_perm_of_strict hsorted'
    · exact List.pairwise_lt_range.imp fun hlt => by exact_mod_cast hlt
    · exact ((mem_ordenarPor _ _).map Tlb.entrada).trans hentradas
  simp only [listGet, Int.natCast_nonneg, if_true, Int.toNat_natCast] at hget
  have hmap := congrArg (Option.map Tlb.entrada) hget
  rw [← List.getElem?_map, heq, Option.map_some] at hmap
  obtain ⟨hlt, hval⟩ := List.getElem?_eq_some_iff.1 hmap
  rw [← hval, List.getElem_range]

/-- A load fills an empty entry after those in use, or takes the entry at the pointer, which
then comes last. -/
theorem EnGiro.carga {hs : List (ℤ × ℤ)} {s₁ : Estado} {e : Tlb} {l : List Tlb} {u : ℤ × ℤ}
    {marco : ℤ} {ts : ℕ} (hfifo : E.config.algoritmoReemplazoTlb = .fifo)
    (hentradas : (s₁.tlbList.map Tlb.entrada).Perm (List.range E.config.cantidaEntradasTlb))
    (h : EnGiro E hs s₁)
    (heleccion : Eleccion E s₁.tlbList s₁.tlbFifoPointer e l s'.tlbFifoPointer)
    (hhueco : s₁.tlbList.find? (fun t => t.pid = 0) = some e →
      ∀ t ∈ ocupadas s₁, giro E s₁ t < giro E s₁ e)
    (hnuevas : ∀ a ∈ ocupadas s', a = ⟨e.entrada, u.1, u.2, marco, ts⟩ ∨
      a ∈ ocupadas s₁ ∧ a.nombre ≠ u ∧ a.entrada ≠ e.entrada)
    (hno : enTlb u s₁ = false) : EnGiro E (hs ++ [u]) s' := by
  have hviejas : ∀ a ∈ ocupadas s', a ∈ ocupadas s₁ → a.entrada ≠ e.entrada := by
    intro a ha ha₁
    rcases hnuevas a ha with rfl | ⟨-, -, hne⟩
    · exact absurd rfl (nombre_ne_of_enTlb hno (mem_ocupadas.1 ha₁).1)
    · exact hne
  have hlt : ∀ a ∈ ocupadas s₁, a.entrada < E.config.cantidaEntradasTlb := by
    intro a ha
    have hmem := List.mem_map_of_mem (f := Tlb.entrada) (mem_ocupadas.1 ha).1
    exact List.mem_range.1 (hentradas.mem_iff.1 hmem)
  have hsub : ∀ a ∈ ocupadas s', a = ⟨e.entrada, u.1, u.2, marco, ts⟩ ∨
      a ∈ ocupadas s₁ ∧ a.nombre ≠ u := by
    intro a ha
    rcases hnuevas a ha with heq | ⟨ha₁, hne, -⟩
    · exact Or.inl heq
    · exact Or.inr ⟨ha₁, hne⟩
  generalize hfinal : s'.tlbFifoPointer = final at heleccion
  cases heleccion with
  | libre hlibre =>
    refine ⟨hfinal ▸ h.puntero, ?_⟩
    rw [giro_congr hfinal]
    apply h.orden.use (e := ⟨e.entrada, u.1, u.2, marco, ts⟩) hsub
    · intro a _ b _ _ _ hlt
      exact hlt
    · intro a _ ha _
      exact hhueco hlibre a ha
  | lru hlru _ _ _ _ =>
    rw [hfifo] at hlru
    cases hlru
  | fifo _ hllena hget =>
    have hpuntero := entrada_de_puntero hentradas hget
    have hgiro : ∀ t, giro E s' t = turn E.config.cantidaEntradasTlb
        (nextPlace E.config.cantidaEntradasTlb s₁.tlbFifoPointer) t.entrada := by
      intro t
      rw [giro, hfinal, nextPlace]
    have hne : ∀ a ∈ ocupadas s', a ∈ ocupadas s₁ → a.entrada ≠ s₁.tlbFifoPointer := by
      intro a ha ha₁
      rw [← hpuntero]
      exact hviejas a ha ha₁
    refine ⟨?_, h.orden.use (e := ⟨e.entrada, u.1, u.2, marco, ts⟩) hsub ?_ ?_⟩
    · rw [hfinal]
      exact nextPlace_lt h.puntero
    · intro a ha b hb ha₁ hb₁ hab
      have hcerca := turn_nextPlace h.puntero (hlt a ha₁) (hne a ha ha₁)
      have hcerca' := turn_nextPlace h.puntero (hlt b hb₁) (hne b hb hb₁)
      rw [hgiro, hgiro]
      rw [giro, giro] at hab
      omega
    · intro a ha ha₁ _
      rw [hgiro, hgiro]
      dsimp only
      rw [hpuntero]
      exact turn_nextPlace_lt h.puntero (hlt a ha₁) (hne a ha ha₁)

theorem cargadas_paso {hs : List (ℤ × ℤ)} (hfifo : E.config.algoritmoReemplazoTlb = .fifo)
    (h : Marcha E s) (hr : EnGiro E hs s) (hg : huecoAlFinal E s op = true)
    (hpaso : paso E op s = .ok (o, s')) : EnGiro E (hs ++ cargada s op s') s' := by
  cases hu : usoEn s op with
  | none =>
    obtain ⟨pid, rfl, rfl⟩ := usoEn_none hpaso hu
    rw [cargada, hu, List.append_nil]
    apply hr.menos (tlbFifoPointer_createCarpincho pid)
    intro t ht
    rwa [ocupadas_createCarpincho] at ht
  | some u =>
    obtain ⟨hpos, hefecto⟩ := h.efecto hpaso hu
    cases hefecto with
    | @acierto t ht hnombre htlb hpuntero =>
      have hcargada : cargada s op s' = [] := by
        simp only [cargada, hu]
        refine if_neg fun hc => ?_
        exact nombre_ne_of_enTlb hc.1 ht hnombre
      rw [hcargada, List.append_nil]
      apply hr.menos hpuntero
      intro a ha
      rcases htlb with ⟨-, htlb⟩ | ⟨hlru, -⟩
      · rw [mem_ocupadas, htlb] at ha
        exact mem_ocupadas.2 ha
      · rw [hfifo] at hlru
        cases hlru
    | fallo hno hpor htlb hpuntero =>
      have hsin : enTlb u s' = false := by
        rw [enTlb, htlb]
        exact hpor.sin_entrada hpos.ne' hno
      have hcargada : cargada s op s' = [] := by
        simp only [cargada, hu]
        refine if_neg fun hc => ?_
        rw [hsin] at hc
        cases hc.2
      rw [hcargada, List.append_nil]
      apply hr.menos hpuntero
      intro a ha
      rw [mem_ocupadas, htlb, ← mem_ocupadas] at ha
      exact hpor.viva ha
    | @carga s₁ e l marco hno hantes hpor heleccion htlb =>
      have hcargada : cargada s op s' = [u] := by
        simp only [cargada, hu]
        exact if_pos ⟨hno, enTlb_cargar heleccion.mem htlb⟩
      rw [hcargada]
      have hr₁ : EnGiro E hs s₁ := hr.menos hpor.fifo fun t ht => hpor.viva ht
      apply hr₁.carga hfifo (hpor.entradas ▸ h.entradas) heleccion
      · intro hlibre t ht
        exact giro_lt_hueco hg hantes hlibre ht
      · intro a ha
        exact ocupadas_cargar hno hpor heleccion.perm htlb ha
      · exact hpor.sin_entrada hpos.ne' hno

/-- TLB FIFO. In a run in which every empty entry that is filled comes after those in use,
an entry is replaced only when none is empty, and it is the one whose load is the earliest
of the run. -/
theorem tlbFifo_exacto {E : Entorno} (hfifo : E.config.algoritmoReemplazoTlb = .fifo)
    (basura : ℕ → Pagina) {ops : List Operacion} (hops : ∀ op ∈ ops, Nucleo.Admisible op)
    {s s' : Estado} {op : Operacion} {o : Resultado} {t : Tlb}
    (h : Reaches (paso E) (fun s op => huecoAlFinal E s op = true)
      (inicializarMemoria E.config basura) ops s)
    (hpaso : paso E op s = .ok (o, s')) (ht : Reemplazada s s' t) :
    (∀ w ∈ s.tlbList, w.pid ≠ 0) ∧ ∀ w ∈ s.tlbList, w ≠ t →
      lastUse t.nombre (cargadas E ops (inicializarMemoria E.config basura)) <
        lastUse w.nombre (cargadas E ops (inicializarMemoria E.config basura)) := by
  have hmarcha : ∀ s op o s', Marcha E s → (Nucleo.Admisible op ∧ huecoAlFinal E s op = true) →
      paso E op s = .ok (o, s') → Marcha E s' :=
    fun s op o s' hm hg hpaso => hm.llevada hg.1 hpaso
  have hm := (h.and_mem hops).invariant hmarcha (marcha_inicial E basura)
  have htlb : 0 < E.config.cantidaEntradasTlb := by
    have hmem := hm.entradas.mem_iff.1 (List.mem_map_of_mem ht.1)
    have hlt := List.mem_range.1 hmem
    omega
  have hstep : ∀ hs s op o s', Marcha E s ∧ EnGiro E hs s →
      (Nucleo.Admisible op ∧ huecoAlFinal E s op = true) → paso E op s = .ok (o, s') →
      Marcha E s' ∧ EnGiro E (hs ++ cargada s op s') s' := by
    intro hs s op o s' ⟨hm, hr⟩ ⟨hadm, hg⟩ hpaso
    exact ⟨hm.llevada hadm hpaso, cargadas_paso hfifo hm hr hg hpaso⟩
  have hinicial : EnGiro E [] (inicializarMemoria E.config basura) := by
    refine ⟨htlb, ?_⟩
    rw [ocupadas_inicial]
    exact .nil
  obtain ⟨-, hr⟩ := (h.and_mem hops).history_invariant hstep ⟨marcha_inicial E basura, hinicial⟩
  obtain ⟨hllena, l, heleccion⟩ := hm.reemplazada hpaso ht
  refine ⟨hllena, fun w hw hne => ?_⟩
  have hviva : ∀ w ∈ s.tlbList, w ∈ ocupadas s := fun w hw => mem_ocupadas.2 ⟨hw, hllena w hw⟩
  have hpuntero : giro E s t = 0 := by
    generalize s'.tlbFifoPointer = final at heleccion
    cases heleccion with
    | libre hlibre => exact absurd (by simpa using List.find?_some hlibre) (hllena t ht.1)
    | lru hlru _ _ _ _ =>
      rw [hfifo] at hlru
      cases hlru
    | fifo _ _ hget => rw [giro, entrada_de_puntero hm.entradas hget, turn_self]
  exact hr.orden.lowest (hviva t ht.1) (fun a _ => hpuntero ▸ Nat.zero_le _) (hviva w hw) hne

def configTlbFifo (marcos : ℕ) : Config :=
  { configHeap with
    tipoAsignacion := .fija
    cantidaEntradasTlb := 2
    marcosPorCarpincho := marcos }

/-- A page of the second carpincho takes the frame of the other one, and its entry; then the
page of a third carpincho takes the entry of the first. -/
theorem tlbFifo_exacto_tres_carpinchos :
    ∃ s s' o t, Reaches (paso (entornoFiel (configTlbFifo 1)))
        (fun s op => huecoAlFinal (entornoFiel (configTlbFifo 1)) s op = true)
        (inicializarMemoria (configTlbFifo 1) fun _ => paginaNueva 0 0)
        [.createCarpincho 1, .createCarpincho 2, .createCarpincho 3, .createPagina 1,
          .createPagina 2, .createPagina 2] s ∧
      paso (entornoFiel (configTlbFifo 1)) (.createPagina 3) s = .ok (o, s') ∧
      Reemplazada s s' t ∧ t.nombre = (1, 1) ∧ ∀ w ∈ s.tlbList, w ≠ t →
        lastUse t.nombre (cargadas (entornoFiel (configTlbFifo 1))
          [.createCarpincho 1, .createCarpincho 2, .createCarpincho 3, .createPagina 1,
            .createPagina 2, .createPagina 2]
          (inicializarMemoria (configTlbFifo 1) fun _ => paginaNueva 0 0)) <
        lastUse w.nombre (cargadas (entornoFiel (configTlbFifo 1))
          [.createCarpincho 1, .createCarpincho 2, .createCarpincho 3, .createPagina 1,
            .createPagina 2, .createPagina 2]
          (inicializarMemoria (configTlbFifo 1) fun _ => paginaNueva 0 0)) := by
  have hcorrida : (guardedRun (paso (entornoFiel (configTlbFifo 1)))
      (huecoAlFinal (entornoFiel (configTlbFifo 1)))
      [.createCarpincho 1, .createCarpincho 2, .createCarpincho 3, .createPagina 1,
        .createPagina 2, .createPagina 2]
      (inicializarMemoria (configTlbFifo 1) fun _ => paginaNueva 0 0)).any (fun s =>
        returns (paso (entornoFiel (configTlbFifo 1)) (.createPagina 3) s) fun r =>
          s.tlbList.any fun t => decide (Reemplazada s r.2 t) && decide (t.nombre = (1, 1))) =
        true := by
    decide +kernel
  obtain ⟨s, hs, hpaso⟩ := (Option.any_eq_true _ _).1 hcorrida
  obtain ⟨r, hr, hreemplazo⟩ := exists_of_returns hpaso
  obtain ⟨t, -, ht⟩ := List.any_eq_true.1 hreemplazo
  rw [Bool.and_eq_true, decide_eq_true_iff, decide_eq_true_iff] at ht
  have hreaches := reaches_of_guardedRun hs
  exact ⟨s, r.2, r.1, t, hreaches, hr, ht.1, ht.2,
    (tlbFifo_exacto rfl _ (by simp [Nucleo.Admisible]) hreaches hr ht.1).2⟩

/-- Three frames: the eviction of the third page empties the entry at the pointer's end of
the order, and the fourth page fills it; the next replacement takes the fourth page's entry,
although the first page was loaded before. -/
theorem hueco_antes_de_tiempo :
    ¬ ∀ (ops : List Operacion) (r : List Resultado × Estado) (op : Operacion)
        (r' : Resultado × Estado) (t : Tlb),
      run (paso (entornoFiel (configTlbFifo 3))) ops
        (inicializarMemoria (configTlbFifo 3) fun _ => paginaNueva 0 0) = .ok r →
      paso (entornoFiel (configTlbFifo 3)) op r.2 = .ok r' → Reemplazada r.2 r'.2 t →
      ∀ w ∈ r.2.tlbList, w ≠ t →
        lastUse t.nombre (cargadas (entornoFiel (configTlbFifo 3)) ops
          (inicializarMemoria (configTlbFifo 3) fun _ => paginaNueva 0 0)) <
        lastUse w.nombre (cargadas (entornoFiel (configTlbFifo 3)) ops
          (inicializarMemoria (configTlbFifo 3) fun _ => paginaNueva 0 0)) := by
  intro hclaim
  have hcorrida : returns (run (paso (entornoFiel (configTlbFifo 3))) [.createCarpincho 1,
      .createPagina 1, .createPagina 1, .createPagina 1, .leerEnPagina 1 2 1 0,
      .leerEnPagina 1 1 1 0, .createPagina 1]
      (inicializarMemoria (configTlbFifo 3) fun _ => paginaNueva 0 0)) (fun r =>
        returns (paso (entornoFiel (configTlbFifo 3)) (.leerEnPagina 1 2 1 0) r.2) fun r' =>
          r.2.tlbList.any fun t => r.2.tlbList.any fun w =>
            decide (Reemplazada r.2 r'.2 t ∧ t.nombre = (1, 4) ∧ w.nombre = (1, 1))) = true := by
    decide +kernel
  obtain ⟨r, hr, hpaso⟩ := exists_of_returns hcorrida
  obtain ⟨r', hr', hreemplazo⟩ := exists_of_returns hpaso
  obtain ⟨t, -, hreemplazo⟩ := List.any_eq_true.1 hreemplazo
  obtain ⟨w, hw, hreemplazo⟩ := List.any_eq_true.1 hreemplazo
  obtain ⟨ht, hnombre, hnombre'⟩ := of_decide_eq_true hreemplazo
  have hne : w ≠ t := by
    rintro rfl
    rw [hnombre] at hnombre'
    cases hnombre'
  have hlt := hclaim _ r _ r' t hr hr' ht w hw hne
  have hcargadas : cargadas (entornoFiel (configTlbFifo 3)) [.createCarpincho 1,
      .createPagina 1, .createPagina 1, .createPagina 1, .leerEnPagina 1 2 1 0,
      .leerEnPagina 1 1 1 0, .createPagina 1]
      (inicializarMemoria (configTlbFifo 3) fun _ => paginaNueva 0 0) =
        [(1, 1), (1, 2), (1, 3), (1, 1), (1, 4)] := by
    decide +kernel
  rw [hcargadas, hnombre, hnombre'] at hlt
  exact absurd hlt (by decide)

end Carpinchos.Memoria
