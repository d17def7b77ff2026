/-
This file simulates bodies that repel each other and are pulled together along links. All numbers
have single precision.
-/

namespace MeshConsole

/-- A body of the simulation. An anchored body is not moved by forces. -/
structure Body where
  x : Float32
  y : Float32
  anchored : Bool := false
  mass : Float32 := 10.0
  speedX : Float32 := 0.0
  speedY : Float32 := 0.0
  pushX : Float32 := 0.0
  pushY : Float32 := 0.0

instance : Inhabited Body := ⟨{ x := 0.0, y := 0.0 }⟩

/-- The strengths of the simulation. -/
structure Forces where
  charge : Float32 := 150.0
  spring : Float32 := 0.05
  /-- No single force is stronger than this. -/
  limit : Float32 := 100.0
  speed : Float32 := 3000.0
  damping : Float32 := 0.9

/-- The bodies and the links between them, in the order in which the links were added. -/
structure Simulation where
  forces : Forces := {}
  bodies : Array Body := #[]
  links : List (Nat × Nat) := []

instance : Inhabited Simulation := ⟨{}⟩

/-- Two bodies are linked at most once, in whichever direction came first. -/
def Simulation.link (simulation : Simulation) (source target : Nat) : Simulation :=
  if simulation.links.contains (source, target) ∨ simulation.links.contains (target, source) then
    simulation
  else { simulation with links := simulation.links ++ [(source, target)] }

/-- The bodies linked to a body: first those it is the source of, then those it is the target of,
each time the newest link first. -/
def Simulation.neighbours (simulation : Simulation) (body : Nat) : List Nat :=
  let newest := simulation.links.reverse
  (newest.filterMap fun link => if link.1 = body then some link.2 else none) ++
    (newest.filterMap fun link => if link.2 = body then some link.1 else none)

/-- A force is cut to the limit in each direction. A value that is no number is cut to the lower
limit. -/
def Forces.cut (forces : Forces) (force : Float32) : Float32 :=
  let raised := if force.isNaN then -forces.limit
    else if force < -forces.limit then -forces.limit else force
  if forces.limit < raised then forces.limit else raised

/-- This function lets a force push a body for `dt` seconds. -/
def Body.push (body : Body) (forces : Forces) (fx fy dt : Float32) : Body :=
  { body with
    pushX := body.pushX + forces.cut fx * dt
    pushY := body.pushY + forces.cut fy * dt }

/-- The direction from one body to another and their distance. Bodies in one place count as one
unit apart. -/
def Body.direction (first second : Body) : Float32 × Float32 × Float32 :=
  let dx := second.x - first.x
  let dy := second.y - first.y
  let distance : Float32 := if dx == 0.0 && dy == 0.0 then 1.0 else (dx * dx + dy * dy).sqrt
  (dx / distance, dy / distance, distance)

/-- The pull of a link on its first body. -/
def Forces.attraction (forces : Forces) (first second : Body) : Float32 × Float32 :=
  let (dx, dy, distance) := first.direction second
  let strength : Float32 := 1.0 * forces.spring * distance * 0.5
  (dx * strength, dy * strength)

/-- The push between two bodies, on the first one. -/
def Forces.repulsion (forces : Forces) (first second : Body) : Float32 × Float32 :=
  let (dx, dy, distance) := first.direction second
  let strength := -forces.charge * ((first.mass * second.mass) / (distance * distance))
  (dx * strength, dy * strength)

/-- The push of a linked body reaches even an anchored body. -/
def Simulation.attract (forces : Forces) (dt : Float32) (current : Nat) (bodies : Array Body)
    (other : Nat) : Array Body :=
  match bodies[current]?, bodies[other]? with
  | some first, some second =>
    let (fx, fy) := forces.attraction first second
    bodies.modify current fun body => body.push forces fx fy dt
  | _, _ => bodies

/-- Two bodies push each other apart; anchored ones feel nothing. -/
def Simulation.repel (forces : Forces) (dt : Float32) (current : Nat) (bodies : Array Body)
    (other : Nat) : Array Body :=
  match bodies[current]?, bodies[other]? with
  | some first, some second =>
    let (fx, fy) := forces.repulsion first second
    let bodies := if first.anchored then bodies
      else bodies.modify current fun body => body.push forces fx fy dt
    if second.anchored then bodies
      else bodies.modify other fun body => body.push forces (-fx) (-fy) dt
  | _, _ => bodies

/-- A body that is not anchored takes up its pushes and moves for `dt` seconds. -/
def Body.move (body : Body) (forces : Forces) (dt : Float32) : Body :=
  if body.anchored then body
  else
    let speedX := (body.speedX + body.pushX * dt * forces.speed) * forces.damping
    let speedY := (body.speedY + body.pushY * dt * forces.speed) * forces.damping
    { body with
      x := body.x + speedX * dt
      y := body.y + speedY * dt
      speedX, speedY
      pushX := 0.0
      pushY := 0.0 }

/-- The step of one body. Bodies with a larger number see where it has moved. -/
def Simulation.stepBody (simulation : Simulation) (dt : Float32) (bodies : Array Body)
    (current : Nat) : Array Body :=
  let forces := simulation.forces
  let pulled := (simulation.neighbours current).foldl (Simulation.attract forces dt current) bodies
  let later := List.range' (current + 1) (bodies.size - (current + 1))
  let pushed := later.foldl (Simulation.repel forces dt current) pulled
  pushed.modify current fun body => body.move forces dt

/-- One step of the simulation of `dt` seconds, body by body. -/
def Simulation.step (simulation : Simulation) (dt : Float32) : Simulation :=
  { simulation with
    bodies := (List.range simulation.bodies.size).foldl (simulation.stepBody dt)
      simulation.bodies }

end MeshConsole
