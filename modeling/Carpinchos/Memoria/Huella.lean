import Carpinchos.Memoria.Efecto

/-!
# Which pages the frames and the TLB name

Whatever SWAmP answers, a frame in use and a TLB entry in use only ever name pages that
were asked for. The paging functions are followed with a predicate on the names of pages:
if it holds of the names in the tables, and of the page that is accessed, it holds of the
names in the tables afterwards.
-/

namespace Carpinchos.Memoria

open Outcome Estado

section Tablas

/-- The names in the tables have a property, frames are numbered by position, and an entry
in use is the only one of its frame, which holds its page. -/
structure TablasBien (V : ℤ → ℤ → Prop) (marcos : List Marco) (tlb : List Tlb) : Prop where
  numeros : ∀ (i : ℕ) m, marcos[i]? = some m → m.marco = i
  ocupados : ∀ m ∈ marcos, m.isFree = false → V m.pid m.pagina
  libres : ∀ m ∈ marcos, m.isFree = true → m.pid = 0 ∧ m.pagina = 0
  vacias : ∀ t ∈ tlb, t.marco = -1 → t.pid = 0 ∧ t.pagina = 0
  entradas : ∀ t ∈ tlb, t.marco ≠ -1 → t.pagina ≠ 0 ∧
    ∃ m ∈ marcos, m.marco = t.marco ∧ m.pid = t.pid ∧ m.pagina = t.pagina
  unicas : ∀ t ∈ tlb, ∀ u ∈ tlb, t.marco ≠ -1 → t.marco = u.marco → t.entrada = u.entrada

variable {V V' : ℤ → ℤ → Prop} {marcos : List Marco} {tlb tlb' : List Tlb}

theorem TablasBien.mono (h : TablasBien V marcos tlb)
    (hV : ∀ pid pagina, V pid pagina → V' pid pagina) : TablasBien V' marcos tlb :=
  { h with ocupados := fun m hm hfree => hV _ _ (h.ocupados m hm hfree) }

theorem TablasBien.marco_inj (h : TablasBien V marcos tlb) {m m' : Marco} (hm : m ∈ marcos)
    (hm' : m' ∈ marcos) (heq : m.marco = m'.marco) : m = m' := by
  obtain ⟨i, hi⟩ := List.mem_iff_getElem?.1 hm
  obtain ⟨j, hj⟩ := List.mem_iff_getElem?.1 hm'
  have hij : (i : ℤ) = j := by
    rw [← h.numeros i m hi, ← h.numeros j m' hj, heq]
  obtain rfl : i = j := by exact_mod_cast hij
  exact Option.some.inj (hi.symm.trans hj)

theorem TablasBien.nombre_entrada (h : TablasBien V marcos tlb) {t : Tlb} (ht : t ∈ tlb)
    (hmarco : t.marco ≠ -1) : V t.pid t.pagina := by
  obtain ⟨hpagina, m, hm, -, hpid, hpag⟩ := h.entradas t ht hmarco
  rw [← hpid, ← hpag]
  apply h.ocupados m hm
  cases hfree : m.isFree with
  | false => rfl
  | true => exact absurd (hpag.symm.trans (h.libres m hm hfree).2) hpagina

theorem TablasBien.menos (h : TablasBien V marcos tlb)
    (hsub : ∀ t' ∈ tlb', (t'.marco = -1 ∧ t'.pid = 0 ∧ t'.pagina = 0) ∨
      ∃ t ∈ tlb, t'.clave = t.clave) : TablasBien V marcos tlb' := by
  have hviva : ∀ t' ∈ tlb', t'.marco ≠ -1 → ∃ t ∈ tlb, t'.clave = t.clave := by
    intro t' ht' hmarco
    rcases hsub t' ht' with ⟨hvacia, -⟩ | hviva
    · exact absurd hvacia hmarco
    · exact hviva
  refine ⟨h.numeros, h.ocupados, h.libres, ?_, ?_, ?_⟩
  · intro t' ht' hmarco
    rcases hsub t' ht' with ⟨-, hpid, hpag⟩ | ⟨t, ht, hclave⟩
    · exact ⟨hpid, hpag⟩
    · simp only [Tlb.clave, Prod.mk.injEq] at hclave
      obtain ⟨-, hpid, hpag, hm⟩ := hclave
      rw [hpid, hpag]
      exact h.vacias t ht (hm ▸ hmarco)
  · intro t' ht' hmarco
    obtain ⟨t, ht, hclave⟩ := hviva t' ht' hmarco
    simp only [Tlb.clave, Prod.mk.injEq] at hclave
    obtain ⟨-, hpid, hpag, hm⟩ := hclave
    rw [hpid, hpag, hm]
    exact h.entradas t ht (hm ▸ hmarco)
  · intro t' ht' u' hu' hmarco heq
    obtain ⟨t, ht, hclave⟩ := hviva t' ht' hmarco
    obtain ⟨u, hu, hclave'⟩ := hviva u' hu' (heq ▸ hmarco)
    simp only [Tlb.clave, Prod.mk.injEq] at hclave hclave'
    rw [hclave.1, hclave'.1]
    rw [hclave.2.2.2] at hmarco heq
    rw [hclave'.2.2.2] at heq
    exact h.unicas t ht u hu hmarco heq

theorem TablasBien.perm (h : TablasBien V marcos tlb) (hperm : tlb'.Perm tlb) :
    TablasBien V marcos tlb' :=
  h.menos fun t ht => Or.inr ⟨t, hperm.mem_iff.1 ht, rfl⟩

theorem TablasBien.vaciar (h : TablasBien V marcos tlb) (entrada : ℕ) :
    TablasBien V marcos (tlb.map fun t => if t.entrada = entrada then t.vacia else t) := by
  apply h.menos
  intro t' ht'
  obtain ⟨t, ht, rfl⟩ := List.mem_map.1 ht'
  by_cases heq : t.entrada = entrada
  · simp [heq, Tlb.vacia]
  · refine Or.inr ⟨t, ht, ?_⟩
    rw [if_neg heq]

theorem TablasBien.cargar (h : TablasBien V marcos tlb) {pid pagina marco : ℤ} (ts entrada : ℕ)
    (hpagina : pagina ≠ 0) (hmarco : marco ≠ -1)
    (hen : ∃ m ∈ marcos, m.marco = marco ∧ m.pid = pid ∧ m.pagina = pagina)
    (hlibre : ∀ t ∈ tlb, t.marco ≠ marco) :
    TablasBien V marcos (tlb.map fun t => if t.entrada = entrada then
      { t with pid := pid, pagina := pagina, marco := marco, timestamp := ts } else t) := by
  have hcases : ∀ t' ∈ tlb.map (fun t => if t.entrada = entrada then
      { t with pid := pid, pagina := pagina, marco := marco, timestamp := ts } else t),
      (t'.entrada = entrada ∧ t'.pid = pid ∧ t'.pagina = pagina ∧ t'.marco = marco) ∨
        t' ∈ tlb := by
    intro t' ht'
    obtain ⟨t, ht, rfl⟩ := List.mem_map.1 ht'
    by_cases heq : t.entrada = entrada
    · simp [heq]
    · simp [heq, ht]
  refine ⟨h.numeros, h.ocupados, h.libres, ?_, ?_, ?_⟩
  · intro t' ht' hm
    rcases hcases t' ht' with ⟨-, -, -, hm'⟩ | ht
    · exact absurd (hm'.symm.trans hm) hmarco
    · exact h.vacias t' ht hm
  · intro t' ht' hm
    rcases hcases t' ht' with ⟨-, hpid, hpag, hm'⟩ | ht
    · rw [hpid, hpag, hm']
      exact ⟨hpagina, hen⟩
    · exact h.entradas t' ht hm
  · intro t' ht' u' hu' hm heq
    rcases hcases t' ht' with ⟨he, -, -, hm'⟩ | ht
    · rcases hcases u' hu' with ⟨he', -, -, -⟩ | hu
      · rw [he, he']
      · exact absurd (heq.symm.trans hm') (hlibre u' hu)
    · rcases hcases u' hu' with ⟨-, -, -, hm'⟩ | hu
      · exact absurd (heq.trans hm') (hlibre t' ht)
      · exact h.unicas t' ht u' hu hm heq

theorem TablasBien.setMarco (h : TablasBien V marcos tlb) {numero : ℤ} {f : Marco → Marco}
    (hf : ∀ m, (f m).marco = m.marco)
    (hocupado : ∀ m, (f m).isFree = false → V (f m).pid (f m).pagina)
    (hvacio : ∀ m, (f m).isFree = true → (f m).pid = 0 ∧ (f m).pagina = 0)
    (hlibre : ∀ t ∈ tlb, t.marco ≠ -1 → t.marco ≠ numero) :
    TablasBien V (marcos.map fun m => if m.marco = numero then f m else m) tlb := by
  refine ⟨?_, ?_, ?_, h.vacias, ?_, h.unicas⟩
  · intro i m' hm'
    rw [List.getElem?_map] at hm'
    obtain ⟨m, hm, rfl⟩ := Option.map_eq_some_iff.1 hm'
    have hnumero := h.numeros i m hm
    split
    · rw [hf, hnumero]
    · exact hnumero
  · intro m' hm' hfree
    obtain ⟨m, hm, rfl⟩ := List.mem_map.1 hm'
    by_cases heq : m.marco = numero
    · rw [if_pos heq] at hfree ⊢
      exact hocupado m hfree
    · rw [if_neg heq] at hfree ⊢
      exact h.ocupados m hm hfree
  · intro m' hm' hfree
    obtain ⟨m, hm, rfl⟩ := List.mem_map.1 hm'
    by_cases heq : m.marco = numero
    · rw [if_pos heq] at hfree ⊢
      exact hvacio m hfree
    · rw [if_neg heq] at hfree ⊢
      exact h.libres m hm hfree
  · intro t ht hmarco
    obtain ⟨hpagina, m, hm, heq, hname⟩ := h.entradas t ht hmarco
    refine ⟨hpagina, m, ?_, heq, hname⟩
    refine List.mem_map.2 ⟨m, hm, if_neg ?_⟩
    rw [heq]
    exact hlibre t ht hmarco

end Tablas

section Huella

def Pagina.nombre (q : Pagina) : ℤ × ℤ := (q.carpinchoPid, q.pagina)

/-- The tables are in order, and the descriptors carry given names. -/
structure Huella (V : ℤ → ℤ → Prop) (N : ℕ → ℤ × ℤ) (s : Estado) : Prop where
  nombres : ∀ p, (s.descriptor p).nombre = N p
  tablas : TablasBien V s.marcosList s.tlbList

/-- What `Huella` looks at. -/
def Estado.tablas (s : Estado) : List Marco × List Tlb × (ℕ → ℤ × ℤ) :=
  (s.marcosList, s.tlbList, fun p => (s.descriptor p).nombre)

variable {E : Entorno} {V : ℤ → ℤ → Prop} {N : ℕ → ℤ × ℤ} {s s' : Estado}

theorem Huella.of_tablas (h : Huella V N s) (heq : s'.tablas = s.tablas) : Huella V N s' := by
  simp only [Estado.tablas, Prod.mk.injEq] at heq
  obtain ⟨hmarcos, htlb, hnombres⟩ := heq
  refine ⟨fun p => (congrFun hnombres p).trans (h.nombres p), ?_⟩
  rw [hmarcos, htlb]
  exact h.tablas

theorem tablas_setPagina {p : ℕ} {f : Pagina → Pagina} (hf : ∀ q, (f q).nombre = q.nombre) :
    (s.setPagina p f).tablas = s.tablas := by
  simp only [Estado.tablas, Estado.setPagina, Prod.mk.injEq, true_and]
  funext q
  by_cases h : q = p
  · subst h
    simp [hf]
  · simp [h]

@[simp] theorem tablas_setCarpincho (pid : ℤ) (f : Carpincho → Carpincho) :
    (s.setCarpincho pid f).tablas = s.tablas := rfl

theorem Huella.vaciarPaginaTlb (h : Huella V N s) (entrada : ℕ) :
    Huella V N (vaciarPaginaTlb entrada s) :=
  ⟨h.nombres, h.tablas.vaciar entrada⟩

end Huella

section Quietas

variable {E : Entorno} {s s' : Estado}

theorem tablas_obtenerTimeStamp {ts : ℕ} (h : obtenerTimeStamp s = .ok (ts, s')) :
    s'.tablas = s.tablas := by
  obtain ⟨c, -, h⟩ := bind_eq_ok.1 h
  cases h
  rfl

theorem tablas_tlbHit {p : ℕ} (h : tlbHit p s = .ok s') : s'.tablas = s.tablas := by
  unfold tlbHit at h
  split at h
  · cases h
  · obtain ⟨hits, -, h⟩ := bind_eq_ok.1 h
    obtain ⟨totales, -, h⟩ := bind_eq_ok.1 h
    cases h
    rfl

theorem tablas_tlbMiss {p : ℕ} (h : tlbMiss p s = .ok s') : s'.tablas = s.tablas := by
  unfold tlbMiss at h
  split at h
  · cases h
  · obtain ⟨miss, -, h⟩ := bind_eq_ok.1 h
    obtain ⟨totales, -, h⟩ := bind_eq_ok.1 h
    cases h
    rfl

theorem tablas_pasada (edit limpia : Bool) (ps : List ℕ) (j : ℕ) (s : Estado) :
    (pasada edit limpia ps j s).2.tablas = s.tablas := by
  induction ps generalizing j s with
  | nil => rfl
  | cons p ps ih =>
    simp only [pasada]
    split
    · rfl
    · rw [ih]
      split
      · apply tablas_setPagina
        exact fun _ => rfl
      · rfl

theorem tablas_pasadas (ps : List ℕ) (j : ℕ) (passes : List (Bool × Bool)) (s : Estado) :
    (pasadas ps j passes s).2.tablas = s.tablas := by
  induction passes generalizing s with
  | nil => rfl
  | cons pass passes ih =>
    obtain ⟨edit, limpia⟩ := pass
    have hp := tablas_pasada edit limpia ps j s
    simp only [pasadas]
    split
    · next h =>
      rw [h] at hp
      exact hp
    · next h =>
      rw [h] at hp
      exact (ih _).trans hp

theorem tablas_avanzarPuntero (pid : ℤ) (j stackSize : ℕ) (s : Estado) :
    (avanzarPuntero E pid j stackSize s).tablas = s.tablas := by
  unfold avanzarPuntero
  dsimp only
  split <;> rfl

theorem tablas_elegirPaginaASwampear {pid : ℤ} {v : ℕ}
    (h : elegirPaginaASwampear E pid s = .ok (v, s')) : s'.tablas = s.tablas := by
  obtain ⟨paginas, -, h⟩ := bind_eq_ok.1 h
  split at h
  · unfold getProximaASwampearByMClock at h
    split at h
    · cases h
    · next page resto _ =>
      split at h
      · cases h
      · next last _ =>
        have hp := tablas_pasadas ((page :: resto).drop last) last cuatroPasadas s
        split at h
        · cases h
        · next heq =>
          cases h
          rw [heq] at hp
          exact (tablas_avanzarPuntero _ _ _ _).trans hp
  · unfold getProximaASwampearByLru at h
    split at h
    · cases h
    · cases h
      rfl

theorem tablas_guardarEnSwamp (v : ℕ) (s : Estado) : (guardarEnSwamp E v s).tablas = s.tablas := by
  unfold guardarEnSwamp
  split <;> rfl

theorem tablas_escribirEnCache (marco : ℤ) (buffer : List UInt8) (offset : ℕ) (s : Estado) :
    (escribirEnCache E marco buffer offset s).2.tablas = s.tablas := by
  unfold escribirEnCache
  split <;> rfl

theorem tablas_lecturaSwamp (pid pagina marco : ℤ) (s : Estado) :
    (lecturaSwamp E pid pagina marco s).2.tablas = s.tablas := by
  unfold lecturaSwamp
  dsimp only
  split
  · rfl
  · exact tablas_escribirEnCache _ _ _ _

theorem tablas_marcarAcceso {p : ℕ} {esEscritura : Bool}
    (h : marcarAcceso E esEscritura p s = .ok s') : s'.tablas = s.tablas := by
  unfold marcarAcceso at h
  split at h
  · cases h
    apply tablas_setPagina
    exact fun _ => rfl
  · obtain ⟨⟨ts, s₁⟩, hts, h⟩ := bind_eq_ok.1 h
    cases h
    exact Eq.trans (tablas_setPagina fun _ => rfl) (tablas_obtenerTimeStamp hts)

theorem tablas_marcarCreacion {p : ℕ} (h : marcarCreacion E p s = .ok s') :
    s'.tablas = s.tablas := by
  unfold marcarCreacion at h
  split at h
  · cases h
    apply tablas_setPagina
    exact fun _ => rfl
  · obtain ⟨⟨ts, s₁⟩, hts, h⟩ := bind_eq_ok.1 h
    cases h
    exact Eq.trans (tablas_setPagina fun _ => rfl) (tablas_obtenerTimeStamp hts)

end Quietas

section Reemplazo

variable {E : Entorno} {V : ℤ → ℤ → Prop} {N : ℕ → ℤ × ℤ} {s s' : Estado}

structure Tomado (pid pagina marco : ℤ) (s : Estado) : Prop where
  en : ∃ m ∈ s.marcosList, m.marco = marco ∧ m.pid = pid ∧ m.pagina = pagina
  libre : ∀ t ∈ s.tlbList, t.marco ≠ -1 → t.marco ≠ marco

theorem Tomado.of_tablas {pid pagina marco : ℤ} (h : Tomado pid pagina marco s)
    (heq : s'.tablas = s.tablas) : Tomado pid pagina marco s' := by
  simp only [Estado.tablas, Prod.mk.injEq] at heq
  obtain ⟨hmarcos, htlb, -⟩ := heq
  constructor
  · rw [hmarcos]
    exact h.en
  · rw [htlb]
    exact h.libre

theorem Huella.vaciarMarcoEnCache (h : Huella V N s) {marco : ℤ}
    (hs : vaciarMarcoEnCache E marco s = .ok s') :
    Huella V N s' ∧ ∀ t ∈ s'.tlbList, t.marco ≠ -1 → t.marco ≠ marco := by
  unfold Memoria.vaciarMarcoEnCache at hs
  split at hs
  · cases hs
  · next instancia hinstancia =>
    have hnumero : instancia.marco = marco := by
      unfold listGet at hinstancia
      split at hinstancia
      · have hm := h.tablas.numeros _ _ hinstancia
        omega
      · cases hinstancia
    cases hs
    split
    · next t ht =>
      have hmem : t ∈ s.tlbList := List.mem_of_find?_eq_some ht
      have htm : t.marco = marco := by simpa using List.find?_some ht
      have hlibre : ∀ u ∈ s.tlbList.map (fun u => if u.entrada = t.entrada then u.vacia else u),
          u.marco ≠ -1 → u.marco ≠ marco := by
        intro u' hu' hne heq
        obtain ⟨u, hu, rfl⟩ := List.mem_map.1 hu'
        by_cases he : u.entrada = t.entrada
        · rw [if_pos he] at hne
          exact hne rfl
        · rw [if_neg he] at hne heq
          exact he (h.tablas.unicas u hu t hmem hne (heq.trans htm.symm))
      refine ⟨⟨h.nombres, ?_⟩, hlibre⟩
      refine (h.tablas.vaciar t.entrada).setMarco (fun _ => rfl) ?_ (fun _ _ => ⟨rfl, rfl⟩) ?_
      · intro m hfree
        cases hfree
      · rw [hnumero]
        exact hlibre
    · next hnone =>
      have hlibre : ∀ u ∈ s.tlbList, u.marco ≠ -1 → u.marco ≠ marco := by
        intro u hu _ heq
        simpa [heq] using List.find?_eq_none.1 hnone u hu
      refine ⟨⟨h.nombres, ?_⟩, hlibre⟩
      refine h.tablas.setMarco (fun _ => rfl) ?_ (fun _ _ => ⟨rfl, rfl⟩) ?_
      · intro m hfree
        cases hfree
      · rw [hnumero]
        exact hlibre

theorem mem_setMarco {marcos : List Marco} {numero : ℤ} {f : Marco → Marco} {m : Marco}
    (hm : m ∈ marcos) (heq : m.marco = numero) :
    f m ∈ marcos.map fun m => if m.marco = numero then f m else m :=
  List.mem_map.2 ⟨m, hm, if_pos heq⟩

theorem Huella.ocupar (h : Huella V N s) {pid pagina : ℤ} {m : Marco} (hV : V pid pagina)
    (hm : m ∈ s.marcosList) (hlibre : ∀ t ∈ s.tlbList, t.marco ≠ -1 → t.marco ≠ m.marco) :
    Huella V N (s.setMarco m.marco (Marco.ocupado pid pagina)) ∧
      Tomado pid pagina m.marco (s.setMarco m.marco (Marco.ocupado pid pagina)) := by
  refine ⟨⟨h.nombres, ?_⟩, ⟨_, mem_setMarco hm rfl, rfl, rfl, rfl⟩, hlibre⟩
  refine h.tablas.setMarco (fun _ => rfl) (fun _ _ => hV) ?_ hlibre
  intro m hfree
  cases hfree

theorem getMarcoByMarcoNumber_some {numero : ℤ} {m : Marco}
    (h : getMarcoByMarcoNumber numero s = some m) : m ∈ s.marcosList ∧ m.marco = numero :=
  ⟨List.mem_of_find?_eq_some h, by simpa using List.find?_some h⟩

theorem Huella.desalojarPagina (h : Huella V N s) {v : ℕ} {pid pagina marco : ℤ}
    (hV : V pid pagina) (hs : desalojarPagina E v pid pagina s = .ok (marco, s')) :
    Huella V N s' ∧ Tomado pid pagina marco s' := by
  obtain ⟨s₁, hvaciar, hs⟩ := bind_eq_ok.1 hs
  obtain ⟨h₁, hlibre⟩ := (h.of_tablas (tablas_guardarEnSwamp v s)).vaciarMarcoEnCache hvaciar
  dsimp only at hs
  split at hs
  · cases hs
  · next instancia hinstancia =>
    obtain ⟨hmem, hnumero⟩ := getMarcoByMarcoNumber_some hinstancia
    rw [← hnumero] at hlibre
    obtain ⟨h₂, htomado⟩ := h₁.ocupar hV hmem hlibre
    cases hs
    exact ⟨h₂.of_tablas (tablas_setPagina fun _ => rfl),
      htomado.of_tablas (tablas_setPagina fun _ => rfl)⟩

theorem Huella.swampearPagina (h : Huella V N s) {pid pagina marco : ℤ} (hV : V pid pagina)
    (hs : swampearPagina E pid pagina s = .ok (marco, s')) :
    Huella V N s' ∧ (marco ≠ -1 → Tomado pid pagina marco s') := by
  obtain ⟨⟨v, s₁⟩, helegir, hs⟩ := bind_eq_ok.1 hs
  have h₁ := h.of_tablas (tablas_elegirPaginaASwampear helegir)
  dsimp only at hs
  split at hs
  · obtain ⟨⟨m, s₂⟩, hdesalojar, hs⟩ := bind_eq_ok.1 hs
    obtain ⟨h₂, htomado⟩ := h₁.desalojarPagina hV hdesalojar
    cases hs
    refine ⟨h₂.of_tablas (tablas_lecturaSwamp _ _ _ _), fun hmarco => ?_⟩
    split
    · exact htomado.of_tablas (tablas_lecturaSwamp _ _ _ _)
    · next hno => exact absurd (if_neg hno) hmarco
  · cases hs
    exact ⟨h₁, fun hmarco => absurd rfl hmarco⟩

theorem Huella.swampearPaginaWhenCreatePage (h : Huella V N s) {pid pagina marco : ℤ}
    (hV : V pid pagina) (hs : swampearPaginaWhenCreatePage E pid pagina s = .ok (marco, s')) :
    Huella V N s' ∧ Tomado pid pagina marco s' := by
  obtain ⟨⟨v, s₁⟩, helegir, hs⟩ := bind_eq_ok.1 hs
  exact (h.of_tablas (tablas_elegirPaginaASwampear helegir)).desalojarPagina hV hs

end Reemplazo

section Traduccion

variable {E : Entorno} {V : ℤ → ℤ → Prop} {N : ℕ → ℤ × ℤ} {s s' : Estado} {p : ℕ}

theorem Huella.refrescarTlb (h : Huella V N s) (hs : refrescarTlb E p s = .ok s') :
    Huella V N s' := by
  unfold Memoria.refrescarTlb at hs
  split at hs
  · cases hs
    exact h
  · split at hs
    · cases hs
    · next u _ =>
      obtain ⟨⟨ts, s₁⟩, hts, hs⟩ := bind_eq_ok.1 hs
      have h₁ := h.of_tablas (tablas_obtenerTimeStamp hts)
      cases hs
      refine ⟨h₁.nombres, h₁.tablas.menos ?_⟩
      intro t' ht'
      obtain ⟨t, ht, rfl⟩ := List.mem_map.1 ht'
      refine Or.inr ⟨t, ht, ?_⟩
      split <;> rfl

theorem Huella.cargarPaginaPaginaTlb (h : Huella V N s) {marco : ℤ} (hpagina : (N p).2 ≠ 0)
    (hmarco : marco ≠ -1) (ht : Tomado (N p).1 (N p).2 marco s)
    (hs : cargarPaginaPaginaTlb p marco s = .ok s') : Huella V N s' := by
  have hname : ((s.descriptor p).carpinchoPid, (s.descriptor p).pagina) = N p := h.nombres p
  unfold Memoria.cargarPaginaPaginaTlb at hs
  split at hs
  · cases hs
  · obtain ⟨⟨ts, s₁⟩, hts, hs⟩ := bind_eq_ok.1 hs
    obtain ⟨c, -, hts⟩ := bind_eq_ok.1 hts
    cases hts
    cases hs
    rw [← hname] at hpagina ht
    refine ⟨h.nombres, h.tablas.cargar _ _ hpagina hmarco ht.en ?_⟩
    intro t hmem heq
    exact ht.libre t hmem (heq ▸ hmarco) heq

/-- The entry that leaves is emptied before the page is loaded, and the branch for a frame
that has an entry already is not taken. -/
theorem Huella.actualizarTlb (h : Huella V N s) {marco : ℤ} (hpagina : (N p).2 ≠ 0)
    (ht : marco ≠ -1 → Tomado (N p).1 (N p).2 marco s)
    (hs : actualizarTlb E p marco s = .ok s') : Huella V N s' := by
  unfold Memoria.actualizarTlb at hs
  split at hs
  · cases hs
    exact h
  · next hmarco =>
    have htomado := ht hmarco
    have hno : isMarcoInTlb marco s = false := by
      rw [isMarcoInTlb, List.any_eq_false]
      intro t hmem heq
      have heq := of_decide_eq_true heq
      exact htomado.libre t hmem (heq ▸ hmarco) heq
    rw [hno] at hs
    obtain ⟨⟨saliente, s₁⟩, hsaliente, hs⟩ := bind_eq_ok.1 hs
    obtain ⟨l, fifo, hperm, -, rfl⟩ := proximaPaginaASacarTlb_cases hsaliente
    have h₁ : Huella V N { s with tlbList := l, tlbFifoPointer := fifo } :=
      ⟨h.nombres, h.tablas.perm hperm⟩
    refine (h₁.vaciarPaginaTlb saliente.entrada).cargarPaginaPaginaTlb hpagina hmarco ?_ hs
    refine ⟨htomado.en, ?_⟩
    intro t' ht' hne
    obtain ⟨t, hmem, rfl⟩ := List.mem_map.1 ht'
    by_cases he : t.entrada = saliente.entrada
    · rw [if_pos he] at hne
      exact absurd rfl hne
    · rw [if_neg he] at hne ⊢
      exact htomado.libre t (hperm.mem_iff.1 hmem) hne

/-- The frame that holds a page without entry has no entry either. -/
theorem Huella.tomado_de_cache (h : Huella V N s) (hno : paginaIsInTlb p s = false)
    (hmarco : obtenerMarcoDeCache p s ≠ -1) :
    Tomado (N p).1 (N p).2 (obtenerMarcoDeCache p s) s := by
  have hname : ((s.descriptor p).carpinchoPid, (s.descriptor p).pagina) = N p := h.nombres p
  unfold obtenerMarcoDeCache at hmarco ⊢
  split at hmarco
  · next m hm =>
    have hmem : m ∈ s.marcosList := List.mem_of_find?_eq_some hm
    have hes : m.pid = (s.descriptor p).carpinchoPid ∧ m.pagina = (s.descriptor p).pagina := by
      simpa [esMarcoDe] using List.find?_some hm
    rw [← hname]
    refine ⟨⟨m, hmem, rfl, hes⟩, fun t ht hne heq => ?_⟩
    obtain ⟨-, m', hm', heq', hpid, hpag⟩ := h.tablas.entradas t ht hne
    obtain rfl := h.tablas.marco_inj hm' hmem (heq'.trans heq)
    have hsi : paginaIsInTlb p s = true :=
      paginaIsInTlb_iff.2 ⟨t, ht, hpid.symm.trans hes.1, hpag.symm.trans hes.2⟩
    rw [hno] at hsi
    cases hsi
  · exact absurd rfl hmarco

theorem paginaIsInTlb_of_tablas (heq : s'.tablas = s.tablas) :
    paginaIsInTlb p s' = paginaIsInTlb p s := by
  simp only [Estado.tablas, Prod.mk.injEq] at heq
  obtain ⟨-, htlb, hnombres⟩ := heq
  have hname := congrFun hnombres p
  simp only [Pagina.nombre, Prod.mk.injEq] at hname
  have hentrada : esEntradaDe p s' = esEntradaDe p s := by
    funext t
    simp only [esEntradaDe, hname]
  rw [paginaIsInTlb, paginaIsInTlb, htlb, hentrada]

theorem Huella.obtenerMarcoSinTlb (h : Huella V N s) (hV : V (N p).1 (N p).2) {marco : ℤ}
    (hno : paginaIsInTlb p s = false) (hs : obtenerMarcoSinTlb E p s = .ok (marco, s')) :
    Huella V N s' ∧ (marco ≠ -1 → Tomado (N p).1 (N p).2 marco s') := by
  unfold Memoria.obtenerMarcoSinTlb at hs
  split at hs
  · obtain ⟨s₁, hmiss, hs⟩ := bind_eq_ok.1 hs
    have h₁ := h.of_tablas (tablas_tlbMiss hmiss)
    rw [← paginaIsInTlb_of_tablas (tablas_tlbMiss hmiss)] at hno
    cases hs
    exact ⟨h₁, h₁.tomado_de_cache hno⟩
  · obtain ⟨s₁, hhit, hs⟩ := bind_eq_ok.1 hs
    have h₁ := h.of_tablas (tablas_tlbHit hhit)
    have hname : ((s₁.descriptor p).carpinchoPid, (s₁.descriptor p).pagina) = N p := h₁.nombres p
    simp only [← hname] at hV ⊢
    exact h₁.swampearPagina hV hs

theorem Huella.obtenerMarcoParaPagina (hV : V (N p).1 (N p).2) (hpagina : (N p).2 ≠ 0)
    {fuel : ℕ} {marco : ℤ} (h : Huella V N s)
    (hs : obtenerMarcoParaPagina E fuel p s = .ok (marco, s')) : Huella V N s' := by
  induction fuel generalizing marco s s' with
  | zero => cases hs
  | succ fuel ih =>
    unfold Memoria.obtenerMarcoParaPagina at hs
    split at hs
    · obtain ⟨s₁, hhit, hs⟩ := bind_eq_ok.1 hs
      obtain ⟨⟨m, s₂⟩, hmarco, hs⟩ := bind_eq_ok.1 hs
      obtain ⟨s₃, hrefrescar, hs⟩ := bind_eq_ok.1 hs
      have h₁ := h.of_tablas (tablas_tlbHit hhit)
      have h₂ : Huella V N s₂ := by
        unfold getMarcoDeTlb at hmarco
        split at hmarco
        · split at hmarco
          · cases hmarco
          · split at hmarco
            · cases hmarco
            · split at hmarco
              · cases hmarco
                exact h₁
              · refine ih ?_ hmarco
                exact ⟨h₁.nombres, h₁.tablas.vaciar _⟩
        · cases hmarco
          exact h₁
      cases hs
      exact h₂.refrescarTlb hrefrescar
    · next hno =>
      obtain ⟨⟨m, s₁⟩, hmarco, hs⟩ := bind_eq_ok.1 hs
      obtain ⟨s₂, hactualizar, hs⟩ := bind_eq_ok.1 hs
      obtain ⟨h₁, htomado⟩ := h.obtenerMarcoSinTlb hV (Bool.eq_false_iff.2 hno) hmarco
      cases hs
      exact h₁.actualizarTlb hpagina htomado hactualizar

theorem Huella.traerPagina (h : Huella V N s) (hV : V (N p).1 (N p).2) (hpagina : (N p).2 ≠ 0)
    {marco : Option ℤ} (hs : traerPagina E p s = .ok (marco, s')) : Huella V N s' := by
  obtain ⟨-, -, hs⟩ := bind_eq_ok.1 hs
  obtain ⟨s₁, hrefrescar, hs⟩ := bind_eq_ok.1 hs
  obtain ⟨⟨m, s₂⟩, hmarco, hs⟩ := bind_eq_ok.1 hs
  have h₁ : Huella V N s₁ := by
    split at hrefrescar
    · exact h.refrescarTlb hrefrescar
    · cases hrefrescar
      exact h
  have h₂ := Huella.obtenerMarcoParaPagina hV hpagina h₁ hmarco
  dsimp only at hs
  split at hs <;> cases hs
  · exact h₂.of_tablas (tablas_setPagina fun _ => rfl)
  · refine (h₂.of_tablas ?_).of_tablas (tablas_setPagina fun _ => rfl)
    exact tablas_setPagina fun _ => rfl

theorem Huella.leerEnPagina (h : Huella V N s) (hV : V (N p).1 (N p).2) (hpagina : (N p).2 ≠ 0)
    {tamanio offset : ℕ} {contenido : Option (List UInt8)}
    (hs : leerEnPagina E p tamanio offset s = .ok (contenido, s')) : Huella V N s' := by
  obtain ⟨⟨marco, s₁⟩, htraer, hs⟩ := bind_eq_ok.1 hs
  have h₁ := h.traerPagina hV hpagina htraer
  cases marco with
  | none =>
    cases hs
    exact h₁
  | some marco =>
    obtain ⟨-, -, hs⟩ := bind_eq_ok.1 hs
    obtain ⟨s₂, hmarcar, hs⟩ := bind_eq_ok.1 hs
    cases hs
    exact h₁.of_tablas (tablas_marcarAcceso hmarcar)

theorem Huella.escribirEnPagina (h : Huella V N s) (hV : V (N p).1 (N p).2)
    (hpagina : (N p).2 ≠ 0) {offset : ℕ} {buffer : List UInt8} {result : ℤ}
    (hs : escribirEnPagina E p buffer offset s = .ok (result, s')) : Huella V N s' := by
  obtain ⟨⟨marco, s₁⟩, htraer, hs⟩ := bind_eq_ok.1 hs
  have h₁ := h.traerPagina hV hpagina htraer
  cases marco with
  | none =>
    cases hs
    exact h₁
  | some marco =>
    obtain ⟨-, -, hs⟩ := bind_eq_ok.1 hs
    obtain ⟨s₂, hmarcar, hs⟩ := bind_eq_ok.1 hs
    cases hs
    exact (h₁.of_tablas (tablas_escribirEnCache _ _ _ _)).of_tablas (tablas_marcarAcceso hmarcar)

end Traduccion

section Creacion

variable {E : Entorno} {V : ℤ → ℤ → Prop} {N : ℕ → ℤ × ℤ} {s s' : Estado} {p : ℕ}

theorem Huella.libre_sin_entrada (h : Huella V N s) {m : Marco} (hm : m ∈ s.marcosList)
    (hfree : m.isFree = true) : ∀ t ∈ s.tlbList, t.marco ≠ -1 → t.marco ≠ m.marco := by
  intro t ht hne heq
  obtain ⟨hpagina, m', hm', heq', -, hpag⟩ := h.tablas.entradas t ht hne
  obtain rfl := h.tablas.marco_inj hm' hm (heq'.trans heq)
  exact hpagina (hpag.symm.trans (h.tablas.libres m' hm hfree).2)

theorem Huella.marcoParaPaginaNueva (h : Huella V N s) {beforeValue : Bool} {pid pagina marco : ℤ}
    (hV : V pid pagina)
    (hs : marcoParaPaginaNueva E beforeValue pid pagina s = .ok (marco, s')) :
    Huella V N s' ∧ ∀ t ∈ s'.tlbList, t.marco ≠ -1 → t.marco ≠ marco := by
  unfold Memoria.marcoParaPaginaNueva at hs
  split at hs
  · split at hs
    · cases hs
    · next m hm =>
      cases hs
      have hmem := (mem_ordenarPor _ _).mem_iff.1 (mem_of_listGet hm)
      obtain ⟨hmem, hfree⟩ := List.mem_filter.1 hmem
      exact ⟨h, h.libre_sin_entrada hmem hfree⟩
  · obtain ⟨h', htomado⟩ := h.swampearPaginaWhenCreatePage hV hs
    exact ⟨h', htomado.libre⟩

theorem Huella.createPagina {pid : ℤ} {c : Carpincho} (hc : getCarpincho pid s = some c)
    (h : Huella V N (conDescriptor c s)) (hV : V c.pid (c.paginas.length + 1 : ℕ))
    (hs : createPagina E pid s = .ok (p, s')) : Huella V N s' := by
  obtain ⟨c', beforeValue, marco, s₁, instancia, s₂, s₃, hc', rfl, -, hmarco, hinstancia,
    hactualizar, hmarcar, rfl⟩ := createPagina_cases hs
  obtain rfl := Option.some.inj (hc.symm.trans hc')
  have hname : N s.proximoPtr = (c.pid, ((c.paginas.length + 1 : ℕ) : ℤ)) := by
    rw [← h.nombres]
    simp [conDescriptor, setPagina, paginaNueva, Pagina.nombre]
  obtain ⟨h₁, hlibre⟩ := h.marcoParaPaginaNueva hV hmarco
  obtain ⟨hmem, hnumero⟩ := getMarcoByMarcoNumber_some hinstancia
  rw [← hnumero] at hlibre
  have h₁' : Huella V N
      (s₁.setPagina s.proximoPtr fun q => { q with marco := marco, bitPresencia := true }) :=
    h₁.of_tablas (tablas_setPagina fun _ => rfl)
  obtain ⟨h₂, htomado⟩ := h₁'.ocupar hV hmem hlibre
  have hpagina : (N s.proximoPtr).2 ≠ 0 := by
    rw [hname]
    exact Int.natCast_ne_zero.2 (Nat.succ_ne_zero _)
  have h₃ : Huella V N s₂ := by
    refine h₂.actualizarTlb hpagina (fun _ => ?_) hactualizar
    rw [hname]
    exact htomado
  exact (h₃.of_tablas (tablas_marcarCreacion hmarcar)).of_tablas (tablas_setCarpincho _ _)

end Creacion

end Carpinchos.Memoria
