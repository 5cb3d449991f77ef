import WebListener.Lifecycle.World
-- The one order of moves in which nothing is left waiting for its turn: the primary listener goes
-- as far as it can, then the redirector, and then the caller looks at what the redirector did.
namespace WebListener.Lifecycle.World

def attempt (world : World) (move : Move) : World := (world.execute move).getD world

def nextMove (world : World) (side : Side) : Move :=
  match (world.lane side).phase with
  | .ready => .start side
  | .bound _ => .publish side
  | .serving _ => .stop side none
  | _ => .finish side

-- A listener has at most four moves of its own before it: start, publish, stop and finish.
def rest (world : World) (side : Side) : World :=
  (List.range 4).foldl (fun world _ => world.attempt (world.nextMove side)) world

def reportAll (world : World) : World :=
  world.background.foldl (fun world _ => world.attempt .report) world

def settle (world : World) : World :=
  (((world.rest .primary).rest .redirector).attempt .observe).reportAll

def close (world : World) (side : Side) : World :=
  (world.attempt (.touch (.publish side))).attempt (.touch (.signal side))

def interrupt (world : World) (signal : Signal) : World :=
  let received := world.attempt (.receive signal)
  (closeAll.foldl (fun world _ => world.attempt .closeNext) received).settle

end WebListener.Lifecycle.World
