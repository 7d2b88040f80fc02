import LaneScope.Session.Step

/-!
The course of a session, step by step.
-/

namespace LaneScope

namespace Session

def refuse (session : Session) (fault : Fault) : Turn :=
  ⟨.error fault, session, []⟩

def withSnapshot (session : Session) (snapshot : Snapshot) : Session :=
  { session with snapshot }

def change (session : Session) (present : Bool) (snapshot : Snapshot) : Turn :=
  if present then ⟨.ok .done, session.withSnapshot snapshot, []⟩ else session.refuse .outOfRange

def edit (session : Session) : Edit → Turn
  | .addFunction start size name =>
    match session.snapshot.addFunction start size name with
    | .ok snapshot => ⟨.ok .done, session.withSnapshot snapshot, []⟩
    | .error fault => session.refuse (.range fault)
  | .launch launch =>
    let kernel := session.snapshot.kernelOf launch
    ⟨.ok (.kernel (some kernel)), session.withSnapshot (session.snapshot.launch launch),
      [.kernelCreated kernel.id kernel.name]⟩
  | .exitKernel id =>
    match session.snapshot.kernels.find? id with
    | none => ⟨.ok (.kernel none), session, []⟩
    | some kernel =>
      if session.snapshot.hasDevice kernel.dev then
        ⟨.ok (.kernel (some kernel)), session.withSnapshot (session.snapshot.exitKernel kernel),
          [.kernelDestroyed id]⟩
      else ⟨.error .outOfRange, session, [.kernelDestroyed id]⟩
  | .setGridStatus dev grid status =>
    ⟨.ok .done, session.withSnapshot (session.snapshot.setGridStatus dev grid status), []⟩
  | .forgetGrid dev grid => ⟨.ok .done, session.withSnapshot (session.snapshot.forgetGrid dev grid), []⟩
  | .setClock clock => ⟨.ok (.clock clock), session.withSnapshot (session.snapshot.setClock clock), []⟩
  | .setBreakpoint dev pc present =>
    session.change (session.snapshot.hasDevice dev) (session.snapshot.setBreakpoint dev pc present)
  | .setSm dev sm change =>
    session.change (session.snapshot.hasSm dev sm) (session.snapshot.changeSm dev sm change.apply)
  | .setWarp site change =>
    session.change (session.snapshot.hasWarp site) (session.snapshot.changeWarp site change.apply)
  | .setLane site ln change =>
    session.change (session.snapshot.hasLane site ln) (session.snapshot.changeLane site ln change.apply)
  | .populate site id block first active =>
    match session.snapshot.populate site id block first active with
    | .ok snapshot => ⟨.ok .done, session.withSnapshot snapshot, []⟩
    | .error (.unregistered id) => session.refuse (.unregistered id)
    | .error .outOfRange => session.refuse .outOfRange
    | .error .overflow => session.refuse .overflow
  | .invalidate =>
    let kernels := session.snapshot.kernels
    ⟨.ok .done, session.withKernels kernels.invalidateAll, kernels.ids.map .kernelInvalidated⟩
  | .setOutage reason => ⟨.ok .done, { session with outage := reason }, []⟩

def put (session : Session) (query : Query) (answer : CoordSet → Answer) : Turn :=
  match session.ask query with
  | (.error fault, session) => session.refuse (.query fault)
  | (.ok set, session) => ⟨.ok (answer set), session, [.queryAnswered query set.coords.size]⟩

def read (session : Session) : Reading → Turn
  | .gridQueries => ⟨.ok (.count session.snapshot.gridQueries), session, []⟩
  | .counts => ⟨.ok (.counts session.snapshot.clock session.snapshot.shape), session, []⟩
  | .sm dev sm =>
    if session.snapshot.hasSm dev sm then ⟨.ok (.sm (session.snapshot.sm (dev, sm))), session, []⟩
    else session.refuse .outOfRange
  | .warp site =>
    if session.snapshot.hasWarp site then
      let lanes := (ordinals session.snapshot.shape.lanes).map (session.snapshot.lane site)
      let kernel := (session.snapshot.kernelAt site).map Kernel.id
      ⟨.ok (.warp (session.snapshot.warp site) kernel lanes), session, []⟩
    else session.refuse .outOfRange
  | .breakpointAt dev pc =>
    if session.snapshot.hasDevice dev then
      ⟨.ok (.flag (session.snapshot.breakpoint (dev, pc))), session, []⟩
    else session.refuse .outOfRange
  | .gridInfo dev grid =>
    match session.lookup dev grid with
    | (.ok record, session) => ⟨.ok (.gridInfo record.clusterDim), session, []⟩
    | (.error fault, session) => session.refuse (.lookup fault)
  | .gridStatusOf dev grid =>
    match session.lookup dev grid with
    | (.ok record, session) => ⟨.ok (.gridStatus record.status), session, []⟩
    | (.error fault, session) => session.refuse (.lookup fault)
  | .query query probes => session.put query fun set => .set query set (probes.map set.contains)
  | .firstValidThread => session.put Focus.validThread fun set => .coords set.first?
  | .firstTrap => session.put Focus.trap fun set => .coords set.first?
  | .firstException => session.put Focus.exception fun set => .coords set.first?
  | .nearestAtBreakpoint origin => session.put (Focus.breakpointNear origin) fun set => .coords set.first?
  | .logicalOf address =>
    session.put (Focus.threadOn address) fun set => .logical (set.first?.map Coords.logical)
  | .physicalOf address =>
    session.put (Focus.threadOf address) fun set => .physical (set.first?.map Coords.physical)
  | .kernels => ⟨.ok (.kernels session.snapshot.kernels.kernels), session, []⟩
  | .findGrid dev grid =>
    ⟨.ok (.id ((session.snapshot.kernels.findGrid dev grid).map Kernel.id)), session, []⟩
  | .residentKernels =>
    match session.residentKernels with
    | (.error fault, session) => session.refuse (.query fault)
    | (.ok set, session) =>
      ⟨.ok (.ids set.kernelIds), session, [.queryAnswered Focus.residentKernels set.coords.size]⟩
  | .updateArguments frames =>
    let kernels := session.snapshot.kernels
    let readings := kernels.kernels.map fun kernel => kernel.readArguments frames
    ⟨.ok (.formats (readings.foldl (fun formats reading => formats + reading.formats) 0)),
      session.withKernels (kernels.readArguments frames), readings.map ArgumentsReading.event⟩

def looked {α : Type} (answer : α → Answer) : Except LookupFault α × Session → Turn
  | (.ok found, session) => ⟨.ok (answer found), session, []⟩
  | (.error fault, session) => session.refuse (.lookup fault)

def readArguments (session : Session) (kernel : Kernel) (frames : Frames) (answer : ArgumentsReading → Answer) : Turn :=
  let reading := kernel.readArguments frames
  ⟨.ok (answer reading),
    session.withKernels (session.snapshot.kernels.setArguments kernel.id reading.arguments), [reading.event]⟩

def onKernel (session : Session) (kernel : Kernel) : KernelStep → Turn
  | .summary => ⟨.ok (.kernel (some kernel)), session, []⟩
  | .setLaunched launched =>
    ⟨.ok .done, session.withKernels (session.snapshot.kernels.setLaunched kernel.id launched), []⟩
  | .depth =>
    match session.snapshot.kernels.depth kernel with
    | .ok (depth, kernels) => ⟨.ok (.count depth), session.withKernels kernels, []⟩
    | .error fault => session.refuse (.depth fault)
  | .children => ⟨.ok (.ids ((session.snapshot.kernels.children kernel).map Kernel.id)), session, []⟩
  | .clusterDim => looked .dim (session.clusterDim kernel)
  | .gridStatus => looked .gridStatus (session.gridStatus kernel)
  | .present => looked .flag (session.present kernel)
  | .describe => looked .text (session.describe kernel)
  | .invalidate =>
    ⟨.ok .done, session.withKernels (session.snapshot.kernels.invalidate kernel.id),
      [.kernelInvalidated kernel.id]⟩
  | .smMask =>
    if session.snapshot.hasDevice kernel.dev then
      session.put (Focus.smsOf kernel) fun set => .flags (set.smMask session.snapshot.shape.sms)
    else session.refuse .outOfRange
  | .shouldReport settings =>
    match session.snapshot.kernels.reports settings kernel with
    | .ok (reported, kernels) => ⟨.ok (.flag reported), session.withKernels kernels, []⟩
    | .error fault => session.refuse (.depth fault)
  | .readArguments frames => session.readArguments kernel frames fun reading => .formats reading.formats
  | .arguments frames =>
    session.readArguments kernel frames fun reading => .arguments reading.arguments.text? reading.formats

def perform (session : Session) : Step → Turn
  | .edit edit => session.edit edit
  | .read reading => session.read reading
  | .onKernel id step =>
    match session.snapshot.kernels.find? id with
    | none => session.refuse .noSuchKernel
    | some kernel => session.onKernel kernel step

end Session

end LaneScope
