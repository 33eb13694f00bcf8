import Mathlib.Data.List.Basic

/-! Wire-level value objects of the Stable protocol. Integers are unbounded, as
the writer decides what fits; a float is the bit pattern it has on the wire. -/

namespace Perfcho.Stable

def matchSlotCount : Nat := 16

def occupiedSlotMask : Nat := 0x7C

/-- Packet identifiers sent by the latest client. -/
inductive ClientPacket where
  | changeAction | sendPublicMessage | logout | requestStatusUpdate | ping | startSpectating
  | stopSpectating | spectateFrames | errorReport | cantSpectate | sendPrivateMessage | partLobby
  | joinLobby | createMatch | joinMatch | partMatch | matchChangeSlot | matchReady | matchLock
  | matchChangeSettings | matchStart | matchScoreUpdate | matchComplete | matchChangeMods
  | matchLoadComplete | matchNoBeatmap | matchNotReady | matchFailed | matchHasBeatmap
  | matchSkipRequest | channelJoin | beatmapInfoRequest | matchTransferHost | friendAdd
  | friendRemove | matchChangeTeam | channelPart | receiveUpdates | setAwayMessage | ircOnly
  | userStatsRequest | matchInvite | matchChangePassword | tournamentMatchInfoRequest
  | userPresenceRequest | userPresenceRequestAll | toggleBlockNonFriendDms
  | tournamentJoinMatchChannel | tournamentLeaveMatchChannel
  deriving DecidableEq

def ClientPacket.value : ClientPacket → Nat
  | .changeAction => 0 | .sendPublicMessage => 1 | .logout => 2 | .requestStatusUpdate => 3
  | .ping => 4 | .startSpectating => 16 | .stopSpectating => 17 | .spectateFrames => 18
  | .errorReport => 20 | .cantSpectate => 21 | .sendPrivateMessage => 25 | .partLobby => 29
  | .joinLobby => 30 | .createMatch => 31 | .joinMatch => 32 | .partMatch => 33
  | .matchChangeSlot => 38 | .matchReady => 39 | .matchLock => 40 | .matchChangeSettings => 41
  | .matchStart => 44 | .matchScoreUpdate => 47 | .matchComplete => 49 | .matchChangeMods => 51
  | .matchLoadComplete => 52 | .matchNoBeatmap => 54 | .matchNotReady => 55 | .matchFailed => 56
  | .matchHasBeatmap => 59 | .matchSkipRequest => 60 | .channelJoin => 63
  | .beatmapInfoRequest => 68 | .matchTransferHost => 70 | .friendAdd => 73 | .friendRemove => 74
  | .matchChangeTeam => 77 | .channelPart => 78 | .receiveUpdates => 79 | .setAwayMessage => 82
  | .ircOnly => 84 | .userStatsRequest => 85 | .matchInvite => 87 | .matchChangePassword => 90
  | .tournamentMatchInfoRequest => 93 | .userPresenceRequest => 97 | .userPresenceRequestAll => 98
  | .toggleBlockNonFriendDms => 99 | .tournamentJoinMatchChannel => 108
  | .tournamentLeaveMatchChannel => 109

def ClientPacket.all : List ClientPacket :=
  [.changeAction, .sendPublicMessage, .logout, .requestStatusUpdate, .ping, .startSpectating,
    .stopSpectating, .spectateFrames, .errorReport, .cantSpectate, .sendPrivateMessage, .partLobby,
    .joinLobby, .createMatch, .joinMatch, .partMatch, .matchChangeSlot, .matchReady, .matchLock,
    .matchChangeSettings, .matchStart, .matchScoreUpdate, .matchComplete, .matchChangeMods,
    .matchLoadComplete, .matchNoBeatmap, .matchNotReady, .matchFailed, .matchHasBeatmap,
    .matchSkipRequest, .channelJoin, .beatmapInfoRequest, .matchTransferHost, .friendAdd,
    .friendRemove, .matchChangeTeam, .channelPart, .receiveUpdates, .setAwayMessage, .ircOnly,
    .userStatsRequest, .matchInvite, .matchChangePassword, .tournamentMatchInfoRequest,
    .userPresenceRequest, .userPresenceRequestAll, .toggleBlockNonFriendDms,
    .tournamentJoinMatchChannel, .tournamentLeaveMatchChannel]

/-- The member with a value, if the inventory has one. -/
def ClientPacket.ofValue? (value : Int) : Option ClientPacket :=
  ClientPacket.all.find? fun member => (member.value : Int) == value

/-- Packet identifiers sent to the latest client. -/
inductive ServerPacket where
  | userId | sendMessage | pong | handleIrcChangeUsername | handleIrcQuit | userStats | userLogout
  | spectatorJoined | spectatorLeft | spectateFrames | versionUpdate | spectatorCantSpectate
  | getAttention | notification | updateMatch | newMatch | disposeMatch | toggleBlockNonFriendDms
  | matchJoinSuccess | matchJoinFail | fellowSpectatorJoined | fellowSpectatorLeft
  | allPlayersLoaded | matchStart | matchScoreUpdate | matchTransferHost | matchAllPlayersLoaded
  | matchPlayerFailed | matchComplete | matchSkip | unauthorized | channelJoinSuccess | channelInfo
  | channelKick | channelAutoJoin | beatmapInfoReply | privileges | friendsList | protocolVersion
  | mainMenuIcon | monitor | matchPlayerSkipped | userPresence | restart | matchInvite
  | channelInfoEnd | matchChangePassword | silenceEnd | userSilenced | userPresenceSingle
  | userPresenceBundle | userDmBlocked | targetIsSilenced | versionUpdateForced | switchServer
  | accountRestricted | rtx | matchAbort | switchTournamentServer

def ServerPacket.value : ServerPacket → Nat
  | .userId => 5 | .sendMessage => 7 | .pong => 8 | .handleIrcChangeUsername => 9
  | .handleIrcQuit => 10 | .userStats => 11 | .userLogout => 12 | .spectatorJoined => 13
  | .spectatorLeft => 14 | .spectateFrames => 15 | .versionUpdate => 19
  | .spectatorCantSpectate => 22 | .getAttention => 23 | .notification => 24 | .updateMatch => 26
  | .newMatch => 27 | .disposeMatch => 28 | .toggleBlockNonFriendDms => 34
  | .matchJoinSuccess => 36 | .matchJoinFail => 37 | .fellowSpectatorJoined => 42
  | .fellowSpectatorLeft => 43 | .allPlayersLoaded => 45 | .matchStart => 46
  | .matchScoreUpdate => 48 | .matchTransferHost => 50 | .matchAllPlayersLoaded => 53
  | .matchPlayerFailed => 57 | .matchComplete => 58 | .matchSkip => 61 | .unauthorized => 62
  | .channelJoinSuccess => 64 | .channelInfo => 65 | .channelKick => 66 | .channelAutoJoin => 67
  | .beatmapInfoReply => 69 | .privileges => 71 | .friendsList => 72 | .protocolVersion => 75
  | .mainMenuIcon => 76 | .monitor => 80 | .matchPlayerSkipped => 81 | .userPresence => 83
  | .restart => 86 | .matchInvite => 88 | .channelInfoEnd => 89 | .matchChangePassword => 91
  | .silenceEnd => 92 | .userSilenced => 94 | .userPresenceSingle => 95 | .userPresenceBundle => 96
  | .userDmBlocked => 100 | .targetIsSilenced => 101 | .versionUpdateForced => 102
  | .switchServer => 103 | .accountRestricted => 104 | .rtx => 105 | .matchAbort => 106
  | .switchTournamentServer => 107

def ServerPacket.all : List ServerPacket :=
  [.userId, .sendMessage, .pong, .handleIrcChangeUsername, .handleIrcQuit, .userStats,
    .userLogout, .spectatorJoined, .spectatorLeft, .spectateFrames, .versionUpdate,
    .spectatorCantSpectate, .getAttention, .notification, .updateMatch, .newMatch, .disposeMatch,
    .toggleBlockNonFriendDms, .matchJoinSuccess, .matchJoinFail, .fellowSpectatorJoined,
    .fellowSpectatorLeft, .allPlayersLoaded, .matchStart, .matchScoreUpdate, .matchTransferHost,
    .matchAllPlayersLoaded, .matchPlayerFailed, .matchComplete, .matchSkip, .unauthorized,
    .channelJoinSuccess, .channelInfo, .channelKick, .channelAutoJoin, .beatmapInfoReply,
    .privileges, .friendsList, .protocolVersion, .mainMenuIcon, .monitor, .matchPlayerSkipped,
    .userPresence, .restart, .matchInvite, .channelInfoEnd, .matchChangePassword, .silenceEnd,
    .userSilenced, .userPresenceSingle, .userPresenceBundle, .userDmBlocked, .targetIsSilenced,
    .versionUpdateForced, .switchServer, .accountRestricted, .rtx, .matchAbort,
    .switchTournamentServer]

def ServerPacket.ofValue? (value : Int) : Option ServerPacket :=
  ServerPacket.all.find? fun member => (member.value : Int) == value

/-- Actions carried by spectator replay bundles. -/
inductive ReplayAction where
  | standard | newSong | skip | completion | fail | pause | unpause | songSelect | watchingOther

def ReplayAction.value : ReplayAction → Nat
  | .standard => 0 | .newSong => 1 | .skip => 2 | .completion => 3 | .fail => 4 | .pause => 5
  | .unpause => 6 | .songSelect => 7 | .watchingOther => 8

def ReplayAction.all : List ReplayAction :=
  [.standard, .newSong, .skip, .completion, .fail, .pause, .unpause, .songSelect, .watchingOther]

def ReplayAction.ofValue? (value : Int) : Option ReplayAction :=
  ReplayAction.all.find? fun member => (member.value : Int) == value

structure Message where
  sender : String
  text : String
  recipient : String
  senderId : Int

structure Channel where
  name : String
  topic : String
  playerCount : Int

/-- Status fields of a change-action packet. The action and the mode are inside
their inventories, so no other value can be built. -/
structure ClientStatus where
  action : Int
  infoText : String
  beatmapMd5 : String
  mods : Int
  mode : Int
  beatmapId : Int
  action_range : 0 ≤ action ∧ action ≤ 13
  mode_range : 0 ≤ mode ∧ mode ≤ 3

structure UserPresence where
  userId : Int
  username : String
  utcOffset : Int
  countryCode : Int
  privileges : Int
  mode : Int
  longitude : UInt32
  latitude : UInt32
  globalRank : Int

structure UserStats where
  userId : Int
  action : Int
  infoText : String
  beatmapMd5 : String
  mods : Int
  mode : Int
  beatmapId : Int
  rankedScore : Int
  accuracy : UInt32
  playCount : Int
  totalScore : Int
  globalRank : Int
  performance : Int

structure MultiplayerMatch where
  matchId : Int := 0
  inProgress : Bool := false
  matchType : Int := 0
  mods : Int := 0
  name : String := ""
  password : String := ""
  beatmapName : String := ""
  beatmapId : Int := 0
  beatmapMd5 : String := ""
  slotStatuses : List Int := List.replicate matchSlotCount 0
  slotTeams : List Int := List.replicate matchSlotCount 0
  slotUserIds : List (Option Int) := List.replicate matchSlotCount none
  hostId : Int := 0
  mode : Int := 0
  winCondition : Int := 0
  teamType : Int := 0
  freemods : Bool := false
  slotMods : List Int := []
  seed : Int := 0

/-- Whether a slot status has one of the occupied bits, which lie below bit seven. -/
def statusOccupied (status : Int) : Bool :=
  (status % 128).toNat &&& occupiedSlotMask != 0

structure ScoreFrame where
  time : Int
  frameId : Int
  count300 : Int
  count100 : Int
  count50 : Int
  countGeki : Int
  countKatu : Int
  countMiss : Int
  totalScore : Int
  maxCombo : Int
  currentCombo : Int
  perfect : Bool
  currentHp : Int
  tagByte : Int
  scoreV2 : Bool
  comboPortion : Option UInt64 := none
  bonusPortion : Option UInt64 := none

structure ReplayFrame where
  buttonState : Int
  taikoByte : Int
  x : UInt32
  y : UInt32
  time : Int

structure ReplayFrameBundle where
  frames : List ReplayFrame
  scoreFrame : ScoreFrame
  action : ReplayAction
  extra : Int
  sequence : Int

end Perfcho.Stable
