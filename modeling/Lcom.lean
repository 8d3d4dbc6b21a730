import Lcom.Lib.Transition
import Lcom.Lib.Ranking
import Lcom.Lib.Refinement
import Lcom.Lib.Traversal
import Lcom.Lib.Heap
import Lcom.Lib.Bits
import Lcom.Lib.Raster
import Lcom.Lib.Strict
import Lcom.Lib.Painter
import Lcom.Lib.Dialogue
import Lcom.Lib.Device
import Lcom.Lib.EventLoop
import Lcom.Lib.Environment
import Lcom.Minix.Calls
import Lcom.Minix.Receive
import Lcom.Minix.Triples
import Lcom.Proj.Sprites
import Lcom.Proj.Objects
import Lcom.Proj.ShipBullets
import Lcom.Proj.Devices
import Lcom.Proj.Cursor
import Lcom.Proj.Game
import Lcom.Proj.Play
import Lcom.Proj.Moves
import Lcom.Proj.March
import Lcom.Proj.Assembler
import Lcom.Proj.Commands
import Lcom.Lab4.Mouse
import Lcom.Lab4.TestPacket
import Lcom.Lab2.TestInt
import Lcom.Lab2.Timer
import Lcom.Lab2.Chip
import Lcom.Lab3.Kbc
import Lcom.Lab3.Scan
import Lcom.Lab3.Reenable
import Lcom.Lab3.Poll
import Lcom.Lab3.CommandByte
import Lcom.Lab3.Agreement
import Lcom.Lab3.TimedScan
import Lcom.Proj.Acknowledge
import Lcom.Proj.CleanExit
import Lcom.Proj.SwitchedOff
import Lcom.Proj.Rtc
import Lcom.Proj.Waves
import Lcom.Proj.Formation
import Lcom.Proj.Deadline
import Lcom.Proj.Outcome
import Lcom.Proj.Lives
import Lcom.Proj.Coalescing
import Lcom.Proj.MouseStream
import Lcom.Proj.Slots
import Lcom.Proj.Score
import Lcom.Proj.Placement
import Lcom.Proj.Gun
import Lcom.Proj.Unarmed
import Lcom.Proj.Volley
import Lcom.Proj.FailedReads
import Lcom.Proj.Keys
import Lcom.Proj.Sweep
import Lcom.Proj.Battle
import Lcom.Proj.Engagement
import Lcom.Proj.Campaign
import Lcom.Proj.FreshStart
import Lcom.Proj.AlienFire
import Lcom.Proj.Numeral
import Lcom.Proj.FrameBuffer
import Lcom.Proj.Blit
import Lcom.Proj.Screen
import Lcom.Lab5.Vg
import Lcom.Lab5.Rectangles
import Lcom.Lab5.Pattern
import Lcom.Lab5.Depths
import Lcom.Lab5.Move
import Lcom.Lab5.Journey
import Lcom.Lab5.Arrival
import Lcom.Lab5.Trail
import Lcom.Lab5.Tests
import Lcom.Proj.Motion
import Lcom.Proj.Stages
import Lcom.Proj.Restart
import Lcom.Proj.Rounds
import Lcom.Sessions
